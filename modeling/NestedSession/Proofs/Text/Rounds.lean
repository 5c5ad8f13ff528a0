import NestedSession.Proofs.Text.Beginning

/-!
# Proofs/Text/Rounds — octets that are read by the text, not one by one

Octets that arrive together can be read in rounds: each takes as many of them as spell a text, and
looks at what stopped it (`Decoder.Round`).  If that can be read no more, one U+FFFD is shown for it
and the next round begins behind it; if it may still become a character, it is held back and there
is no other round (`Decoder.Rounds`).

Reading what is left octet by octet gives the same before every round and after it
(`Decoder.Round.afresh_eq`), and there is less left after it (`Decoder.Round.length_lt`).  So the
rounds come to an end, and that is where a decoder is that is fed one octet at a time
(`Decoder.exists_rounds`, `Decoder.Rounds.eq_afresh`).
-/

namespace NestedSession

open Utf8

/-- **Octets that can be read no more**, whatever comes behind `rest`: one that begins no character,
or those of a character that is begun and does not go on. -/
inductive Utf8.Unreadable : Octets → Octets → Prop
  | lone {x : UInt8} {rest : Octets} (none : ¬ Begins [x]) : Unreadable [x] rest
  | stopped {bad : Octets} {x : UInt8} {rest : Octets} (some : bad ≠ []) (begun : IsPartial bad)
      (stop : ¬ Begins (bad ++ [x])) : Unreadable bad (x :: rest)

theorem Utf8.Unreadable.ne_nil {bad rest : Octets} (h : Unreadable bad rest) : bad ≠ [] := by
  cases h with
  | lone none => exact List.cons_ne_nil _ _
  | stopped some begun stop => exact some

namespace Decoder

/-- **One round**, for a decoder that still has to read all that it holds back.  The answer is
whether there may be another. -/
inductive Round : Decoder → Decoder → Bool → Prop
  /-- The octets spell a text. -/
  | whole {text : String} (more : String) : Round ⟨text, encode more⟩ ⟨text ++ more, []⟩ true
  /-- Behind a text, a character is begun that later octets may complete. -/
  | cut {text : String} (more : String) {begun : Octets} (some : begun ≠ [])
      (partly : IsPartial begun) :
      Round ⟨text, encode more ++ begun⟩ ⟨text ++ more, begun⟩ false
  /-- Behind a text, there is something that can be read no more. -/
  | broken {text : String} (more : String) {bad rest : Octets} (unreadable : Unreadable bad rest) :
      Round ⟨text, encode more ++ (bad ++ rest)⟩ ⟨(text ++ more).push replacement, rest⟩ true

/-- **So many rounds**, as long as something is left and the last one did not say that it was the
last. -/
inductive Rounds : ℕ → Decoder → Decoder → Prop
  | ended (text : String) : Rounds 0 ⟨text, []⟩ ⟨text, []⟩
  | last {d e : Decoder} (some : d.pending ≠ []) (round : Round d e false) : Rounds 1 d e
  | next {n : ℕ} {d e f : Decoder} (some : d.pending ≠ []) (round : Round d e true)
      (others : Rounds n e f) : Rounds (n + 1) d f

/-- **What comes of it** if a decoder reads all that it holds back anew, one octet at a time. -/
def afresh (d : Decoder) : Decoder := (⟨d.text, []⟩ : Decoder).push d.pending

variable {d e : Decoder} {on : Bool} {n : ℕ}

/-! ## Reading anew -/

/-- What is held back is held back again. -/
theorem afresh_of_isBegun (h : IsBegun d.pending) : d.afresh = d := by
  obtain ⟨text, pending⟩ := d
  cases pending with
  | nil => rfl
  | cons b ts =>
    obtain ⟨l, lead, fits, short⟩ := h
    rw [afresh, push_sequence lead fits short.le, if_neg short.ne]

/-- **More octets are read as if what is held back came with them.** -/
theorem push_eq_afresh (h : IsBegun d.pending) (bs : Octets) :
    d.push bs = (⟨d.text, d.pending ++ bs⟩ : Decoder).afresh := by
  conv_lhs => rw [← afresh_of_isBegun h]
  exact (push_append _ _ _).symm

theorem push_encode_nil (text more : String) :
    (⟨text, []⟩ : Decoder).push (encode more) = ⟨text ++ more, []⟩ := by
  by_cases none : more = ""
  · rw [none, String.append_empty]
    rfl
  · exact push_encode _ none

/-- **What can be read no more** is shown as one U+FFFD as soon as that is known. -/
theorem push_of_unreadable {text : String} {bad rest : Octets} (h : Unreadable bad rest) :
    (⟨text, []⟩ : Decoder).push (bad ++ rest)
      = (⟨text.push replacement, []⟩ : Decoder).push rest := by
  cases h with
  | @lone x _ none =>
    rw [begins_singleton_iff, not_or, not_exists] at none
    have lead : lead? x = Option.none := Option.eq_none_iff_forall_ne_some.mpr none.2
    rw [List.singleton_append, push_cons, feed_nil, begin, if_neg none.1, lead, if_neg (by simp)]
  | @stopped bad x rest some begun stop =>
    obtain ⟨b, ts, rfl⟩ := List.exists_cons_of_ne_nil some
    obtain ⟨l, lead, fits, short⟩ := isPartial_iff_isBegun.mp begun
    have room : (ts ++ [x]).length ≤ l.owed := by rwa [List.length_append]
    have unfit : ¬ l.Fits (ts ++ [x]) :=
      fun fits => stop ((begins_cons_iff lead).mpr ⟨fits, room⟩)
    have no : continues (b :: ts) x = false := by
      rwa [← Bool.not_eq_true, continues_iff lead fits]
    rw [push_append, push_sequence lead fits short.le, if_neg short.ne, push_cons, push_cons,
      feed_of_not_continues no, flush_cons, feed_nil]

/-! ## One round -/

/-- **A round changes nothing about what comes of it.** -/
theorem Round.afresh_eq (h : Round d e on) : d.afresh = e.afresh := by
  cases h with
  | whole more => exact push_encode_nil _ more
  | cut more some partly => rw [afresh, push_append, push_encode_nil, afresh]
  | broken more unreadable =>
    rw [afresh, push_append, push_encode_nil, push_of_unreadable unreadable, afresh]

/-- **After a round there is less left**, unless it is the last. -/
theorem Round.length_lt (h : Round d e true) (some : d.pending ≠ []) :
    e.pending.length < d.pending.length := by
  cases h with
  | whole more => exact List.length_pos_iff.mpr some
  | broken more unreadable =>
    have pos := List.length_pos_iff.mpr unreadable.ne_nil
    simp only [List.length_append]
    omega

/-- What the last round leaves is what comes of it. -/
theorem Round.afresh_of_last (h : Round d e false) : e.afresh = e := by
  cases h with
  | cut more some partly => exact afresh_of_isBegun (isPartial_iff_isBegun.mp partly)

/-- A round that takes a character more. -/
theorem Round.cons {text : String} {bs : Octets} (c : Char) (h : Round ⟨text.push c, bs⟩ e on) :
    Round ⟨text, String.utf8EncodeChar c ++ bs⟩ e on := by
  have longer (more : String) : text.push c ++ more = text ++ (String.singleton c ++ more) := by
    rw [← String.toList_inj]
    simp
  have spelled (more : String) :
      String.utf8EncodeChar c ++ encode more = encode (String.singleton c ++ more) := by
    simp [encode]
  cases h with
  | whole more =>
    rw [longer, spelled]
    exact .whole _
  | cut more some partly =>
    rw [longer, ← List.append_assoc, spelled]
    exact .cut _ some partly
  | broken more unreadable =>
    rw [longer, ← List.append_assoc, spelled]
    exact .broken _ unreadable

/-- A round that takes nothing before it is stopped. -/
theorem Round.of_unreadable {text : String} {bad rest : Octets} (h : Unreadable bad rest) :
    Round ⟨text, bad ++ rest⟩ ⟨text.push replacement, rest⟩ true := by
  have round : Round ⟨text, encode "" ++ (bad ++ rest)⟩ _ _ := .broken "" h
  rwa [String.append_empty] at round

/-- A character that is begun and not completed stops a round, where the octets end or before. -/
theorem exists_round_of_short {b : UInt8} {l : Lead} (lead : lead? b = some l) {bs : Octets}
    (short : (l.tails bs).length < l.owed) (text : String) :
    ∃ e on, Round ⟨text, b :: bs⟩ e on := by
  have partly : IsPartial (b :: l.tails bs) :=
    (isPartial_cons_iff lead).mpr ⟨l.fits_tails bs, short⟩
  have some : b :: l.tails bs ≠ [] := List.cons_ne_nil _ _
  have split : bs = l.tails bs ++ bs.drop (l.tails bs).length := (l.tails_append_drop bs).symm
  cases rest : bs.drop (l.tails bs).length with
  | nil =>
    rw [rest, List.append_nil] at split
    rw [← split] at partly some
    exact ⟨_, _, .cut "" some partly⟩
  | cons x xs =>
    rw [rest] at split
    have stop : ¬ Begins (b :: l.tails bs ++ [x]) := fun begun =>
      Lead.not_fits_tails_append short split ((begins_cons_iff lead).mp begun).1
    have round : Round ⟨text, b :: l.tails bs ++ x :: xs⟩ ⟨text.push replacement, x :: xs⟩ true :=
      .of_unreadable (.stopped some partly stop)
    rw [List.cons_append, ← split] at round
    exact ⟨_, _, round⟩

/-- **There always is a round.** -/
theorem exists_round (text : String) (bs : Octets) : ∃ e on, Round ⟨text, bs⟩ e on := by
  fun_induction decodeLossy bs generalizing text with
  | case1 => exact ⟨_, _, .whole ""⟩
  | case2 b bs ascii ih =>
    obtain ⟨e, on, round⟩ := ih (text.push (Char.ofNat b.toNat))
    have longer := round.cons
    rw [utf8EncodeChar_ofNat ascii] at longer
    exact ⟨e, on, longer⟩
  | case3 b bs ascii none ih =>
    have unreadable : Unreadable [b] bs := by
      refine .lone ?_
      rw [begins_singleton_iff]
      simp [ascii, none]
    exact ⟨_, _, .of_unreadable unreadable⟩
  | case4 b bs ascii l lead tails ih =>
    have short : tails.length ≤ l.owed := Lead.length_tails_le_owed (Lead.owed_mem lead).1 bs
    by_cases whole : tails.length = l.owed
    · obtain ⟨e, on, round⟩ := ih (text.push (Char.ofNat (codePoint b tails)))
      have longer := round.cons
      rw [utf8EncodeChar_codePoint lead (l.fits_tails bs) whole, List.cons_append,
        l.tails_append_drop bs] at longer
      exact ⟨e, on, longer⟩
    · exact exists_round_of_short lead (short.lt_of_ne whole) text

/-! ## All rounds -/

/-- **However the rounds go, they are not more than the octets**, and what they lead to is what
comes of reading those one by one. -/
theorem Rounds.eq_afresh (h : Rounds n d e) : n ≤ d.pending.length ∧ e = d.afresh := by
  induction h with
  | ended text => exact ⟨le_rfl, rfl⟩
  | last some round =>
    exact ⟨List.length_pos_iff.mpr some, round.afresh_of_last.symm.trans round.afresh_eq.symm⟩
  | next some round others ih =>
    exact ⟨ih.1.trans_lt (round.length_lt some), ih.2.trans round.afresh_eq.symm⟩

/-- **The rounds come to an end.** -/
theorem exists_rounds (d : Decoder) : ∃ n, Rounds n d d.afresh := by
  induction size : d.pending.length using Nat.strong_induction_on generalizing d with
  | _ size ih =>
    subst size
    obtain ⟨text, pending⟩ := d
    by_cases none : pending = []
    · subst none
      exact ⟨0, .ended text⟩
    obtain ⟨e, on, round⟩ := exists_round text pending
    rw [round.afresh_eq]
    cases on with
    | false =>
      rw [round.afresh_of_last]
      exact ⟨1, .last none round⟩
    | true =>
      obtain ⟨n, others⟩ := ih _ (round.length_lt none) e rfl
      exact ⟨n + 1, .next none round others⟩

end Decoder

end NestedSession
