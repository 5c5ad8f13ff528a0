import NestedSession.Capture.Basic
import NestedSession.Proofs.Text.Rounds

/-!
# Proofs/Capture/Withholding — what a buffer holds back, and what it shows at once

A buffer that is given octets in chunks holds back the beginning of a character and nothing else,
and which one that is can be told from the octets alone: it is the only beginning of a character
that they end in (`Decoder.pending_eq_iff`).  All before it is shown.  That is as much as can be:
what a buffer shows is what will be shown whatever octets come (`Decoder.prefix_text_iff`), for what
is held back may become one character or another, or none (`Utf8.IsPartial.exists_ne_replacement`).
-/

namespace NestedSession

open Utf8

/-- **The beginning of a character alone** is read as one U+FFFD. -/
theorem Utf8.lossy_of_isPartial {bs : Octets} (h : IsPartial bs) :
    lossy bs = if bs = [] then "" else "\uFFFD" := by
  have held : Decoder.empty.push bs = ⟨"", bs⟩ :=
    Decoder.afresh_of_isBegun (d := ⟨"", bs⟩) (isPartial_iff_isBegun.mp h)
  rw [← Decoder.text_flush_push, held]
  cases bs <;> rfl

namespace Decoder

variable {p bs : Octets}

theorem isPartial_pending_push (bs : Octets) : IsPartial (empty.push bs).pending :=
  isPartial_iff_isBegun.mpr (isBegun_push (d := empty) trivial bs)

/-- **What is held back** is the beginning of a character that the octets end in, and there is no
other. -/
theorem pending_eq_iff (some : p ≠ []) :
    (empty.push bs).pending = p ↔ p <:+ bs ∧ IsPartial p := by
  constructor
  · rintro rfl
    exact ⟨pending_push_suffix (d := empty) trivial bs, isPartial_pending_push bs⟩
  · rintro ⟨⟨front, rfl⟩, partly⟩
    obtain ⟨b, ts, rfl⟩ := List.exists_cons_of_ne_nil some
    obtain ⟨l, lead, fits, short⟩ := isPartial_iff_isBegun.mp partly
    -- a lead octet starts afresh, wherever the decoder stands
    rw [push_append, push_of_not_isTail _ (isTail_of_lead? lead),
      push_sequence lead fits short.le, if_neg short.ne]

/-- The end of the octets shows what is held back for what it is. -/
theorem flush_eq_of_isPartial {d : Decoder} (h : IsPartial d.pending) :
    d.flush = ⟨d.text ++ lossy d.pending, []⟩ := by
  obtain ⟨text, pending⟩ := d
  rw [lossy_of_isPartial h]
  cases pending with
  | nil => exact congrArg (Decoder.mk · []) String.append_empty.symm
  | cons b ts =>
    refine congrArg (Decoder.mk · []) (String.toList_inj.mp ?_)
    simp [replacement]

/-- All that was read is what is shown and what is held back. -/
theorem lossy_eq_text_append (bs : Octets) :
    lossy bs = (empty.push bs).text ++ lossy (empty.push bs).pending := by
  rw [← text_flush_push, flush_eq_of_isPartial (isPartial_pending_push bs)]

/-- What is held back may become a character other than U+FFFD. -/
theorem exists_lossy_append (bs : Octets) : ∃ c ≠ replacement, ∃ rest,
    lossy (bs ++ rest) = (empty.push bs).text ++ String.singleton c := by
  obtain ⟨kept, split, text⟩ := exists_kept bs
  obtain ⟨c, other, rest, spelled⟩ := (isPartial_pending_push bs).exists_ne_replacement
  have whole : encode (String.singleton c) = (empty.push bs).pending ++ rest := by
    simp [encode, spelled]
  refine ⟨c, other, rest, ?_⟩
  rw [text, ← lossy_append_encode, whole, ← List.append_assoc, ← split]

/-- **What is shown is what will be shown**, whatever octets come. -/
theorem prefix_text_iff (bs : Octets) (shown : String) :
    shown.toList <+: (empty.push bs).text.toList
      ↔ ∀ more, shown.toList <+: (lossy (bs ++ more)).toList := by
  constructor
  · intro h more
    rw [← text_flush_push, push_append]
    exact h.trans ((prefix_text_push _ more).trans (prefix_text_flush _))
  intro always
  have now := always []
  rw [List.append_nil, lossy_eq_text_append, lossy_of_isPartial (isPartial_pending_push bs)] at now
  split at now
  · rwa [String.append_empty] at now
  -- what is held back may be shown as U+FFFD, or as another character
  obtain ⟨c, other, rest, text⟩ := exists_lossy_append bs
  have later := always rest
  rw [text, String.toList_append, String.toList_singleton] at later
  rw [String.toList_append] at now
  refine (List.prefix_concat_iff.mp now).resolve_left fun same => ?_
  rw [same, List.prefix_append_right_inj, List.cons_prefix_cons] at later
  exact other later.1.symm

end Decoder

namespace Buffer

/-- A buffer that was given octets in chunks. -/
def ofChunks (chunks : List Octets) : Buffer := chunks.foldl push empty

theorem foldl_push (b : Buffer) (chunks : List Octets) :
    chunks.foldl push b = b.push chunks.flatten := by
  induction chunks generalizing b with
  | nil => rfl
  | cons bs rest ih => rw [List.foldl_cons, ih, List.flatten_cons, push_append]

/-- The chunks do not matter. -/
theorem decoder_ofChunks (chunks : List Octets) :
    (ofChunks chunks).decoder = Decoder.empty.push chunks.flatten :=
  congrArg decoder (foldl_push empty chunks)

/-- **What a buffer holds back.**  Let it be given octets in any chunks.

* What it holds back begins the spelling of a character and does not complete it, so it is three
  octets at most.  If there is any, it is what the octets end in that does so, and nothing else
  does; and all before it is shown, read as a whole.
* What it shows is what will be shown whatever octets come.  So every text that was given in full is
  found at once.
* If no more octets come, what it holds back is shown as one U+FFFD, and nothing is shown if it
  holds nothing back.
* When more octets come, it can read them in rounds.  However they go, they come to an end, after no
  more rounds than there are octets to read; and then it shows and holds back what it does if it
  reads them one by one. -/
theorem ofChunks_withholds (chunks : List Octets) :
    ((∃ c : Char, (ofChunks chunks).pending <+: String.utf8EncodeChar c
        ∧ (ofChunks chunks).pending ≠ String.utf8EncodeChar c)
      ∧ (ofChunks chunks).pending.length ≤ 3
      ∧ (∀ p, p ≠ [] → ((ofChunks chunks).pending = p ↔ p <:+ chunks.flatten ∧ IsPartial p))
      ∧ ∃ kept, chunks.flatten = kept ++ (ofChunks chunks).pending
        ∧ (ofChunks chunks).text = lossy kept)
    ∧ ((∀ shown : String, shown.toList <+: (ofChunks chunks).text.toList
        ↔ ∀ more, shown.toList <+: (lossy (chunks.flatten ++ more)).toList)
      ∧ ∀ needle, encode needle <:+: chunks.flatten →
        Text.contains (ofChunks chunks).text needle = true)
    ∧ ((ofChunks chunks).flush.text = (ofChunks chunks).text ++ lossy (ofChunks chunks).pending
      ∧ lossy (ofChunks chunks).pending = (if (ofChunks chunks).pending = [] then "" else "\uFFFD")
      ∧ (ofChunks chunks).flush.pending = [])
    ∧ ∀ bs, (∃ n, Decoder.Rounds n ⟨(ofChunks chunks).text, (ofChunks chunks).pending ++ bs⟩
          ((ofChunks chunks).push bs).decoder)
      ∧ ∀ n d, Decoder.Rounds n ⟨(ofChunks chunks).text, (ofChunks chunks).pending ++ bs⟩ d →
        n ≤ ((ofChunks chunks).pending ++ bs).length ∧ d = ((ofChunks chunks).push bs).decoder := by
  simp only [text, pending, flush, push, decoder_ofChunks]
  generalize chunks.flatten = given
  have begun : Decoder.IsBegun (Decoder.empty.push given).pending :=
    Decoder.isBegun_push (d := Decoder.empty) trivial given
  have partly := Decoder.isPartial_pending_push given
  refine ⟨⟨partly, begun.length_le, fun p some => Decoder.pending_eq_iff some,
      Decoder.exists_kept given⟩,
    ⟨Decoder.prefix_text_iff given, fun needle there => ?_⟩,
    ⟨?_, lossy_of_isPartial partly, Decoder.flush_pending _⟩, fun bs => ?_⟩
  · rw [Text.contains, Text.occurs_iff]
    exact Decoder.infix_text_push there _
  · rw [Decoder.flush_eq_of_isPartial partly]
  · rw [Decoder.push_eq_afresh begun]
    exact ⟨Decoder.exists_rounds _, fun n d rounds => rounds.eq_afresh⟩

/-- A letter, two thirds of a character that does not go on, an octet that belongs to none, and half
a character. -/
def halfway : List Octets := [[0x61, 0xE2], [0x82], [0xFF, 0xF0, 0x9F]]

/-- The half is held back and all before it is shown; and when the rest of it comes, the rounds come
to an end with the character. -/
theorem ofChunks_withholds_halfway :
    (ofChunks halfway).pending = [0xF0, 0x9F] ∧ (ofChunks halfway).text = "a\uFFFD\uFFFD"
    ∧ Text.contains (ofChunks halfway).text "a" = true
    ∧ (ofChunks halfway).flush.text = "a\uFFFD\uFFFD\uFFFD"
    ∧ ∃ n ≤ 5, Decoder.Rounds n ⟨"a\uFFFD\uFFFD", [0xF0, 0x9F, 0x98, 0x80, 0x62]⟩
      ⟨"a\uFFFD\uFFFD😀b", []⟩ := by
  obtain ⟨⟨-, -, held, -⟩, ⟨-, found⟩, ⟨flushed, -, -⟩, rounds⟩ := ofChunks_withholds halfway
  have pending : (ofChunks halfway).pending = [0xF0, 0x9F] :=
    (held _ (by decide)).mpr ⟨⟨[0x61, 0xE2, 0x82, 0xFF], by decide⟩, '😀', by decide, by decide⟩
  have text : (ofChunks halfway).text = "a\uFFFD\uFFFD" := by decide +kernel
  have read : ((ofChunks halfway).push [0x98, 0x80, 0x62]).decoder
      = ⟨"a\uFFFD\uFFFD😀b", []⟩ := by decide +kernel
  obtain ⟨⟨n, ended⟩, bound⟩ := rounds [0x98, 0x80, 0x62]
  have few := (bound n _ ended).1
  rw [pending, text, read] at ended
  rw [pending] at few
  rw [pending, text] at flushed
  exact ⟨pending, text, found "a" ⟨[], [0xE2, 0x82, 0xFF, 0xF0, 0x9F], by decide⟩,
    flushed.trans (by decide +kernel), n, few, ended⟩

end Buffer

end NestedSession
