import Mathlib.Data.List.Induction
import NestedSession.Proofs.Text.Sequence
import NestedSession.Text.Decoder

/-!
# Proofs/Text/Incremental — a decoder reads what a lossy reader reads

Two facts carry everything here.

**An octet that is no tail starts afresh** (`feed_of_not_isTail`).  Whatever a decoder holds back,
such an octet first shows it as one U+FFFD, so a decoder is back in step at every character that is
spelled out in full (`push_encode`).

**Octets that fit are held back until they are as many as owed** (`push_sequence`).  This is the
longest beginning that fits, which the lossy reader takes at once; so reading in pieces and then
closing is reading at once (`text_flush_push`), and what is shown before that is the lossy text of
all but the octets held back (`exists_kept`).
-/

namespace NestedSession.Decoder

open Utf8

variable {b x : UInt8} {l : Lead} {ts bs : Octets} {text : String}

/-! ## One octet -/

@[simp] theorem push_cons (d : Decoder) (b : UInt8) (bs : Octets) :
    d.push (b :: bs) = (d.feed b).push bs := rfl

@[simp] theorem flush_nil (text : String) : (⟨text, []⟩ : Decoder).flush = ⟨text, []⟩ := rfl

theorem flush_cons (text : String) (b : UInt8) (ts : Octets) :
    (⟨text, b :: ts⟩ : Decoder).flush = ⟨text.push replacement, []⟩ := rfl

theorem flush_flush (d : Decoder) : d.flush.flush = d.flush := by
  rw [flush.eq_def d.flush, flush_pending]
  rfl

theorem feed_nil (text : String) (b : UInt8) :
    (⟨text, []⟩ : Decoder).feed b = begin text b := rfl

theorem feed_cons (text : String) (b : UInt8) (ts : Octets) (x : UInt8) :
    (⟨text, b :: ts⟩ : Decoder).feed x
      = if continues (b :: ts) x then
          if isWhole (b :: (ts ++ [x])) then ⟨text.push (Char.ofNat (codePoint b (ts ++ [x]))), []⟩
          else ⟨text, b :: (ts ++ [x])⟩
        else begin (text.push replacement) x := rfl

theorem begin_of_lead? (h : lead? b = some l) : begin text b = ⟨text, [b]⟩ := by
  rw [begin, if_neg (not_ascii_of_lead? h), h]
  rfl

theorem continues_iff (h : lead? b = some l) (fits : l.Fits ts) :
    continues (b :: ts) x = true ↔ l.Fits (ts ++ [x]) := by
  rw [Lead.fits_append_singleton]
  cases ts with
  | nil => simp [continues, h, Lead.Fits]
  | cons t ts => simp [continues, fits]

theorem isWhole_iff (h : lead? b = some l) : isWhole (b :: ts) = true ↔ ts.length = l.owed := by
  simp [isWhole, h]

/-- **An octet that fits** is held back too, or completes the character. -/
theorem feed_of_fits (h : lead? b = some l) (fits : l.Fits (ts ++ [x])) :
    (⟨text, b :: ts⟩ : Decoder).feed x
      = if ts.length + 1 = l.owed then ⟨text.push (Char.ofNat (codePoint b (ts ++ [x]))), []⟩
        else ⟨text, b :: (ts ++ [x])⟩ := by
  rw [feed_cons, if_pos ((continues_iff h fits.left).mpr fits)]
  by_cases whole : ts.length + 1 = l.owed
  · rw [if_pos whole, if_pos ((isWhole_iff h).mpr (by simpa using whole))]
  · rw [if_neg whole, if_neg (by rw [isWhole_iff h]; simpa using whole)]

/-- **An octet that does not fit** is read as if what is held back had been shown before. -/
theorem feed_of_not_continues {d : Decoder} (h : continues d.pending x = false) :
    d.feed x = begin d.flush.text x := by
  obtain ⟨text, pending⟩ := d
  cases pending with
  | nil => rfl
  | cons lead tails => rw [feed_cons, if_neg (by simpa using h), flush_cons]

/-- Only a tail continues anything. -/
theorem continues_of_not_isTail (pending : Octets) (h : isTail x = false) :
    continues pending x = false := by
  match pending with
  | [] => rfl
  | [lead] =>
    rw [continues]
    split
    · next l hl =>
      by_contra hx
      have bounds : l.lo ≤ x ∧ x ≤ l.hi := by simpa using hx
      have tail : isTail x = true := isTail_iff.mpr ((Lead.bounds_iff hl).mp bounds).1
      simp [tail] at h
    · rfl
  | _ :: _ :: _ => exact h

/-- **An octet that is no tail starts afresh.** -/
theorem feed_of_not_isTail (d : Decoder) (h : isTail x = false) :
    d.feed x = begin d.flush.text x :=
  feed_of_not_continues (continues_of_not_isTail d.pending h)

/-- …and with it everything behind it. -/
theorem push_of_not_isTail (d : Decoder) (h : isTail x = false) :
    d.push (x :: bs) = (⟨d.flush.text, []⟩ : Decoder).push (x :: bs) := by
  rw [push_cons, push_cons, feed_of_not_isTail d h, feed_nil]

theorem isTail_of_lead? (h : lead? b = some l) : isTail b = false := by
  by_contra hb
  simp [lead?_of_isTail (b := b) (by simpa using hb)] at h

/-! ## One sequence -/

/-- **A sequence is held back until it is whole.** -/
theorem push_sequence (h : lead? b = some l) (fits : l.Fits ts) (short : ts.length ≤ l.owed) :
    (⟨text, []⟩ : Decoder).push (b :: ts)
      = if ts.length = l.owed then ⟨text.push (Char.ofNat (codePoint b ts)), []⟩
        else ⟨text, b :: ts⟩ := by
  induction ts using List.reverseRecOn with
  | nil =>
    rw [push_cons, feed_nil, begin_of_lead? h, push_nil,
      if_neg (by simpa using (Lead.owed_mem h).1.ne)]
  | append_singleton ts x ih =>
    rw [List.length_append, List.length_singleton] at short ⊢
    -- Before its last octet the sequence is not whole, so all of it is still held back.
    have before := ih fits.left (by omega)
    rw [if_neg (by omega)] at before
    rw [← List.cons_append, push_append, before, push_cons, push_nil, feed_of_fits h fits,
      List.cons_append]

/-- **A character spelled in full is read from wherever the decoder stands.** -/
theorem push_utf8EncodeChar (d : Decoder) (c : Char) :
    d.push (String.utf8EncodeChar c) = ⟨d.flush.text.push c, []⟩ := by
  by_cases hc : c.val.toNat < 128
  · have number : (UInt8.ofNat c.val.toNat).toNat = c.val.toNat := by
      rw [UInt8.toNat_ofNat']
      omega
    have ascii : UInt8.ofNat c.val.toNat < 0x80 := by rwa [lt_128_iff, number]
    have noTail : isTail (UInt8.ofNat c.val.toNat) = false := by
      rw [← Bool.not_eq_true, isTail_iff, number]
      omega
    rw [utf8EncodeChar_ascii hc, push_cons, push_nil, feed_of_not_isTail d noTail, begin,
      if_pos ascii, number]
    rw [show Char.ofNat c.val.toNat = c from Char.ofNat_toNat c]
  · obtain ⟨b, l, ts, spelled, hl, fits, whole, number⟩ := exists_sequence (Nat.le_of_not_lt hc)
    rw [spelled, push_of_not_isTail d (isTail_of_lead? hl), push_sequence hl fits whole.le,
      if_pos whole, number]

/-- **A text spelled in full is read from wherever the decoder stands.** -/
theorem push_encode (d : Decoder) {needle : String} (h : needle ≠ "") :
    d.push (encode needle) = ⟨d.flush.text ++ needle, []⟩ := by
  have key : ∀ (d : Decoder) (c : Char) (cs : List Char),
      d.push ((c :: cs).flatMap String.utf8EncodeChar)
        = ⟨d.flush.text ++ String.ofList (c :: cs), []⟩ := by
    intro d c cs
    induction cs generalizing d c with
    | nil =>
      rw [List.flatMap_singleton, push_utf8EncodeChar]
      exact congrArg (Decoder.mk · []) (String.toList_inj.mp (by simp))
    | cons c' cs ih =>
      rw [List.flatMap_cons, push_append, push_utf8EncodeChar, ih, flush_nil]
      exact congrArg (Decoder.mk · []) (String.toList_inj.mp (by simp))
  obtain ⟨c, cs, hc⟩ := List.exists_cons_of_ne_nil (l := needle.toList) (by simpa using h)
  rw [encode, hc, key, ← hc, String.ofList_toList]

/-! ## Reading in pieces and reading at once -/

/-- What is held back, shown as what it is, when the next octet does not fit. -/
theorem push_of_not_fits (h : lead? b = some l) (fits : l.Fits ts) {rest : Octets}
    (stop : ∀ x xs, rest = x :: xs → ¬ l.Fits (ts ++ [x])) :
    ((⟨text, b :: ts⟩ : Decoder).push rest).flush
      = ((⟨text.push replacement, []⟩ : Decoder).push rest).flush := by
  cases rest with
  | nil => rfl
  | cons x xs =>
    have no : continues (b :: ts) x = false := by
      rw [← Bool.not_eq_true, continues_iff h fits]
      exact stop x xs rfl
    rw [push_cons, push_cons, feed_of_not_continues no, flush_cons, feed_nil]

/-- **Reading octet by octet and then closing is reading at once.** -/
theorem toList_flush_push (text : String) (bs : Octets) :
    ((⟨text, []⟩ : Decoder).push bs).flush.text.toList = text.toList ++ decodeLossy bs := by
  fun_induction decodeLossy bs generalizing text with
  | case1 => simp
  | case2 b bs ascii ih =>
    rw [push_cons, feed_nil, begin, if_pos ascii, ih, String.toList_push, List.append_assoc]
    rfl
  | case3 b bs ascii none ih =>
    rw [push_cons, feed_nil, begin, if_neg ascii, none, if_neg (by simp), ih, String.toList_push,
      List.append_assoc]
    rfl
  | case4 b bs ascii l hl tails ih =>
    have fits : l.Fits tails := l.fits_tails bs
    have short : tails.length ≤ l.owed := Lead.length_tails_le_owed (Lead.owed_mem hl).1 bs
    have split : bs = tails ++ bs.drop tails.length := (l.tails_append_drop bs).symm
    conv_lhs => rw [split, ← List.cons_append, push_append, push_sequence hl fits short]
    by_cases whole : tails.length = l.owed
    · rw [if_pos whole, if_pos whole, ih, String.toList_push, List.append_assoc]
      rfl
    · rw [if_neg whole, if_neg whole, push_of_not_fits hl fits ?_, ih, String.toList_push,
        List.append_assoc]
      · rfl
      · intro x xs hx
        exact Lead.not_fits_tails_append (lt_of_le_of_ne short whole) (hx ▸ split)

/-- A decoder that has read nothing, and then everything, shows the lossy text. -/
theorem text_flush_push (bs : Octets) : (empty.push bs).flush.text = lossy bs := by
  rw [← String.toList_inj, empty, toList_flush_push]
  simp [lossy]

/-- **What spells a text is read as that text.** -/
theorem lossy_encode (text : String) : lossy (encode text) = text := by
  by_cases none : text = ""
  · subst none
    simp [encode, lossy, decodeLossy]
  · rw [← text_flush_push, push_encode empty none, flush_nil, empty, flush_nil,
      String.empty_append]

/-! ## What is shown stays -/

theorem prefix_text_flush (d : Decoder) : d.text.toList <+: d.flush.text.toList := by
  rw [flush]
  split
  · exact List.prefix_rfl
  · rw [String.toList_push]
    exact List.prefix_append _ _

theorem prefix_text_begin (text : String) (x : UInt8) :
    text.toList <+: (begin text x).text.toList := by
  rw [begin]
  split
  · rw [String.toList_push]
    exact List.prefix_append _ _
  · split
    · exact List.prefix_rfl
    · rw [String.toList_push]
      exact List.prefix_append _ _

theorem prefix_text_feed (d : Decoder) (x : UInt8) :
    d.text.toList <+: (d.feed x).text.toList := by
  by_cases fitting : continues d.pending x = true
  · obtain ⟨text, pending⟩ := d
    cases pending with
    | nil => exact absurd fitting (by simp [continues])
    | cons b ts =>
      rw [feed_cons, if_pos fitting]
      split
      · rw [String.toList_push]
        exact List.prefix_append _ _
      · exact List.prefix_rfl
  · rw [feed_of_not_continues (by simpa using fitting)]
    exact (prefix_text_flush d).trans (prefix_text_begin _ x)

/-- **Text is only added at the end.** -/
theorem prefix_text_push (d : Decoder) (bs : Octets) :
    d.text.toList <+: (d.push bs).text.toList := by
  induction bs generalizing d with
  | nil => exact List.prefix_rfl
  | cons b bs ih => exact (prefix_text_feed d b).trans (ih (d.feed b))

/-- **Octets that do not end in the middle of a character.** -/
def EndsWhole (bs : Octets) : Prop := (empty.push bs).pending = []

instance (bs : Octets) : Decidable (EndsWhole bs) := inferInstanceAs (Decidable (_ = _))

/-- They are shown as they are read. -/
theorem EndsWhole.text_push (h : EndsWhole bs) : (empty.push bs).text = lossy bs := by
  rw [← text_flush_push, flush, h]
  rfl

/-- An octet after which nothing is held back shows something. -/
theorem length_text_lt_feed {d : Decoder} {x : UInt8} (whole : (d.feed x).pending = []) :
    d.text.toList.length < (d.feed x).text.toList.length := by
  have begun (text : String) (whole : (begin text x).pending = []) :
      text.toList.length < (begin text x).text.toList.length := by
    rw [begin] at whole ⊢
    split at whole
    · next ascii => simp [ascii]
    · split at whole
      · nomatch whole
      · next ascii other => simp [ascii, other]
  by_cases fitting : continues d.pending x = true
  · obtain ⟨text, pending⟩ := d
    cases pending with
    | nil => exact absurd fitting (by simp [continues])
    | cons b ts =>
      rw [feed_cons, if_pos fitting] at whole ⊢
      split at whole
      · next complete => simp [complete]
      · nomatch whole
  · rw [feed_of_not_continues (by simpa using fitting)] at whole ⊢
    exact (prefix_text_flush d).length_le.trans_lt (begun _ whole)

/-- **Octets after which nothing is held back show something**, if there are any. -/
theorem length_text_lt_push {d : Decoder} {bs : Octets} (some : bs ≠ [])
    (whole : (d.push bs).pending = []) :
    d.text.toList.length < (d.push bs).text.toList.length := by
  obtain ⟨front, last, rfl⟩ := (List.eq_nil_or_concat bs).resolve_left some
  have pushed : d.push (front ++ [last]) = (d.push front).feed last := push_append ..
  rw [List.concat_eq_append, pushed] at whole ⊢
  exact (prefix_text_push d front).length_le.trans_lt (length_text_lt_feed whole)

/-! ## What is held back -/

/-- The beginning of a sequence that is not whole, or nothing. -/
def IsBegun : Octets → Prop
  | [] => True
  | b :: ts => ∃ l, lead? b = some l ∧ l.Fits ts ∧ ts.length < l.owed

/-- At most three octets are held back. -/
theorem IsBegun.length_le {pending : Octets} (h : IsBegun pending) : pending.length ≤ 3 := by
  cases pending with
  | nil => exact Nat.zero_le _
  | cons b ts =>
    obtain ⟨l, hl, -, short⟩ := h
    exact short.trans_le (Lead.owed_mem hl).2

theorem begin_cases (text : String) (x : UInt8) :
    (begin text x).pending = [] ∨ begin text x = ⟨text, [x]⟩ ∧ IsBegun [x] := by
  by_cases ascii : x < 0x80
  · exact Or.inl (by rw [begin, if_pos ascii])
  · cases hl : lead? x with
    | none => exact Or.inl (by rw [begin, if_neg ascii, hl, if_neg (by simp)])
    | some l => exact Or.inr ⟨begin_of_lead? hl, l, hl, trivial, (Lead.owed_mem hl).1⟩

/-- **What one octet does**: nothing is held back after it, it is the only octet held back and all
before it is shown, or it joins the octets held back. -/
theorem feed_cases {d : Decoder} (h : IsBegun d.pending) (x : UInt8) :
    (d.feed x).pending = []
      ∨ d.feed x = ⟨d.flush.text, [x]⟩ ∧ IsBegun [x]
      ∨ d.feed x = ⟨d.text, d.pending ++ [x]⟩ ∧ IsBegun (d.pending ++ [x]) := by
  by_cases fitting : continues d.pending x = true
  · obtain ⟨text, pending⟩ := d
    cases pending with
    | nil => exact absurd fitting (by simp [continues])
    | cons b ts =>
      obtain ⟨l, hl, fits, short⟩ := h
      have fits' : l.Fits (ts ++ [x]) := (continues_iff hl fits).mp fitting
      rw [feed_of_fits hl fits']
      split
      · exact Or.inl rfl
      · refine Or.inr (Or.inr ⟨rfl, l, hl, fits', ?_⟩)
        change (ts ++ [x]).length < l.owed
        rw [List.length_append, List.length_singleton]
        omega
  · rw [feed_of_not_continues (by simpa using fitting)]
    exact (begin_cases d.flush.text x).imp_right Or.inl

theorem isBegun_feed {d : Decoder} (h : IsBegun d.pending) (x : UInt8) :
    IsBegun (d.feed x).pending := by
  rcases feed_cases h x with none | ⟨eq, begun⟩ | ⟨eq, begun⟩
  · rw [none]
    trivial
  · rwa [eq]
  · rwa [eq]

/-- **What is held back is the beginning of a sequence.** -/
theorem isBegun_push {d : Decoder} (h : IsBegun d.pending) (bs : Octets) :
    IsBegun (d.push bs).pending := by
  induction bs generalizing d with
  | nil => exact h
  | cons b bs ih => exact ih (isBegun_feed h b)

theorem pending_feed_suffix {d : Decoder} (h : IsBegun d.pending) (x : UInt8) :
    (d.feed x).pending <:+ d.pending ++ [x] := by
  rcases feed_cases h x with none | ⟨eq, -⟩ | ⟨eq, -⟩
  · rw [none]
    exact List.nil_suffix
  · rw [eq]
    exact List.suffix_append _ _
  · exact eq ▸ List.suffix_rfl

/-- **Only the last octets are held back.** -/
theorem pending_push_suffix {d : Decoder} (h : IsBegun d.pending) (bs : Octets) :
    (d.push bs).pending <:+ d.pending ++ bs := by
  induction bs generalizing d with
  | nil => exact (List.append_nil _).symm ▸ List.suffix_rfl
  | cons b bs ih =>
    have later : ((d.feed b).push bs).pending <:+ (d.feed b).pending ++ bs := ih (isBegun_feed h b)
    obtain ⟨front, split⟩ := pending_feed_suffix h b
    refine later.trans ⟨front, ?_⟩
    rw [← List.append_assoc, split, List.append_assoc, List.singleton_append]

/-- **What is shown is the lossy text of all but the octets held back.** -/
theorem exists_kept (bs : Octets) :
    ∃ kept, bs = kept ++ (empty.push bs).pending ∧ (empty.push bs).text = lossy kept := by
  induction bs using List.reverseRecOn with
  | nil => exact ⟨[], rfl, by simp [lossy, decodeLossy, empty]⟩
  | append_singleton bs x ih =>
    obtain ⟨kept, split, shown⟩ := ih
    rw [push_append, push_cons, push_nil]
    rcases feed_cases (isBegun_push (d := empty) trivial bs) x with none | ⟨eq, -⟩ | ⟨eq, -⟩
    · refine ⟨bs ++ [x], by rw [none, List.append_nil], ?_⟩
      rw [← text_flush_push, push_append, push_cons, push_nil, flush, none]
      rfl
    · exact ⟨bs, by rw [eq], by rw [eq, ← text_flush_push]⟩
    · refine ⟨kept, ?_, by rw [eq, shown]⟩
      rw [eq, ← List.append_assoc, ← split]

end NestedSession.Decoder
