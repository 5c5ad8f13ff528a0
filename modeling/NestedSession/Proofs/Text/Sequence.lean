import Mathlib.Data.List.TakeWhile
import NestedSession.Text.Utf8

/-!
# Proofs/Text/Sequence — the sequences that spell characters

A lead octet and the octets that fit it (`Lead.Fits`) spell one character, and every character above
`7F` is spelled by one such sequence: `utf8EncodeChar_codePoint` and `exists_sequence` are the two
directions.  The octets that a lossy reader takes for a sequence (`Lead.tails`) are the longest
beginning of the input that fits (`not_fits_tails_append`).
-/

namespace NestedSession.Utf8

/-! ## Octets as numbers -/

theorem isTail_iff {b : UInt8} : isTail b = true ↔ 128 ≤ b.toNat ∧ b.toNat ≤ 191 := by
  simp [isTail, UInt8.le_iff_toNat_le]

theorem lt_128_iff {b : UInt8} : b < 0x80 ↔ b.toNat < 128 := UInt8.lt_iff_toNat_lt

/-- **What a lead octet is**, in numbers: the bounds of the first octet after it are those of any
tail but for the four lead octets at the edges. -/
theorem lead?_eq_some_iff {b : UInt8} {l : Lead} :
    lead? b = some l ↔
      (194 ≤ b.toNat ∧ b.toNat ≤ 244) ∧
        l.owed = (if b.toNat < 224 then 1 else if b.toNat < 240 then 2 else 3) ∧
        l.lo = (if b.toNat = 224 then 0xA0 else if b.toNat = 240 then 0x90 else 0x80) ∧
        l.hi = (if b.toNat = 237 then 0x9F else if b.toNat = 244 then 0x8F else 0xBF) := by
  obtain ⟨owed, lo, hi⟩ := l
  simp only [lead?, UInt8.lt_iff_toNat_lt, ← UInt8.toNat_inj (a := b), UInt8.reduceToNat]
  grind

theorem lead?_of_isTail {b : UInt8} (h : isTail b = true) : lead? b = none := by
  rw [isTail_iff] at h
  refine Option.eq_none_iff_forall_ne_some.mpr fun l hl => ?_
  have := lead?_eq_some_iff.mp hl
  omega

theorem not_ascii_of_lead? {b : UInt8} {l : Lead} (h : lead? b = some l) : ¬ b < 0x80 := by
  have := lead?_eq_some_iff.mp h
  rw [lt_128_iff]
  omega

theorem Lead.owed_mem {b : UInt8} {l : Lead} (h : lead? b = some l) :
    0 < l.owed ∧ l.owed ≤ 3 := by
  rw [(lead?_eq_some_iff.mp h).2.1]
  split
  · decide
  · split <;> decide

theorem exists_lead {b : UInt8} {n : Nat} (h : b.toNat = n) (low : 194 ≤ n) (high : n ≤ 244) :
    ∃ l, lead? b = some l :=
  ⟨⟨_, _, _⟩, lead?_eq_some_iff.mpr ⟨⟨h ▸ low, h ▸ high⟩, rfl, rfl, rfl⟩⟩

/-- **The first octet after a lead octet** is a tail, and at the four edges it is bounded further:
`E0` and `F0` would begin a longer spelling than needed, `ED` a surrogate, and `F4` a number beyond
the last. -/
theorem Lead.bounds_iff {b t : UInt8} {l : Lead} (h : lead? b = some l) :
    (l.lo ≤ t ∧ t ≤ l.hi) ↔
      (128 ≤ t.toNat ∧ t.toNat ≤ 191) ∧
        ((b.toNat = 224 → 160 ≤ t.toNat) ∧ (b.toNat = 240 → 144 ≤ t.toNat)) ∧
        ((b.toNat = 237 → t.toNat ≤ 159) ∧ (b.toNat = 244 → t.toNat ≤ 143)) := by
  obtain ⟨-, -, hlo, hhi⟩ := lead?_eq_some_iff.mp h
  have lo : l.lo.toNat = if b.toNat = 224 then 160 else if b.toNat = 240 then 144 else 128 := by
    simp only [hlo, apply_ite UInt8.toNat, UInt8.reduceToNat]
  have hi : l.hi.toNat = if b.toNat = 237 then 159 else if b.toNat = 244 then 143 else 191 := by
    simp only [hhi, apply_ite UInt8.toNat, UInt8.reduceToNat]
  rw [UInt8.le_iff_toNat_le, UInt8.le_iff_toNat_le, lo, hi]
  grind

/-! ## Octets that fit a lead octet -/

/-- The octets that may follow a lead octet. -/
def Lead.Fits (l : Lead) : Octets → Prop
  | [] => True
  | t :: ts => (l.lo ≤ t ∧ t ≤ l.hi) ∧ ∀ x ∈ ts, isTail x = true

theorem Lead.fits_append_singleton {l : Lead} {ts : Octets} {x : UInt8} :
    l.Fits (ts ++ [x]) ↔
      l.Fits ts ∧ (if ts = [] then l.lo ≤ x ∧ x ≤ l.hi else isTail x = true) := by
  cases ts with
  | nil => simp [Fits]
  | cons t ts => simp [Fits, or_imp, forall_and, and_assoc]

theorem Lead.Fits.left {l : Lead} {ts us : Octets} (h : l.Fits (ts ++ us)) : l.Fits ts := by
  cases ts with
  | nil => trivial
  | cons t ts => exact ⟨h.1, fun x hx => h.2 x (List.mem_append_left us hx)⟩

theorem Lead.fits_tails (l : Lead) (bs : Octets) : l.Fits (l.tails bs) := by
  cases bs with
  | nil => trivial
  | cons b bs =>
    rw [tails]
    split
    · next h =>
      refine ⟨by simpa using h, fun x hx => ?_⟩
      exact List.mem_takeWhile_imp hx
    · trivial

theorem Lead.tails_isPrefix (l : Lead) (bs : Octets) : l.tails bs <+: bs := by
  cases bs with
  | nil => exact List.nil_prefix
  | cons b bs =>
    rw [tails]
    split
    · exact (List.cons_prefix_cons.mpr
        ⟨rfl, (List.takeWhile_prefix _).trans (List.take_prefix _ _)⟩)
    · exact List.nil_prefix

/-- The octets taken for a sequence, and the rest. -/
theorem Lead.tails_append_drop (l : Lead) (bs : Octets) :
    l.tails bs ++ bs.drop (l.tails bs).length = bs :=
  List.prefix_iff_eq_append.mp (l.tails_isPrefix bs)

theorem Lead.length_tails_le_owed {l : Lead} (h : 0 < l.owed) (bs : Octets) :
    (l.tails bs).length ≤ l.owed := by
  cases bs with
  | nil => exact Nat.zero_le _
  | cons b bs =>
    rw [tails]
    split
    · have := (List.takeWhile_prefix isTail (l := bs.take (l.owed - 1))).length_le
      have := List.length_take_le (l.owed - 1) bs
      simp only [List.length_cons]
      omega
    · exact Nat.zero_le _

/-- The element at which `takeWhile` stops fails the test. -/
theorem eq_false_of_takeWhile_take {p : UInt8 → Bool} {n : Nat} {tw rest : Octets} {x : UInt8}
    (h : ((tw ++ x :: rest).take n).takeWhile p = tw) (short : tw.length < n) : p x = false := by
  have cut : (tw ++ x :: rest).take n = tw ++ x :: rest.take (n - (tw.length + 1)) := by
    rw [List.take_append, List.take_of_length_le short.le,
      show n - tw.length = n - (tw.length + 1) + 1 by omega, List.take_succ_cons]
  have all : ∀ y ∈ tw, p y = true := fun y hy => List.mem_takeWhile_imp (h.symm ▸ hy)
  rw [cut, List.takeWhile_append_of_pos all, List.append_right_eq_self, List.takeWhile_cons] at h
  by_contra hx
  simp [hx] at h

/-- **What is taken for a sequence is the longest beginning that fits.** -/
theorem Lead.not_fits_tails_append {l : Lead} {bs rest : Octets} {x : UInt8}
    (short : (l.tails bs).length < l.owed) (h : bs = l.tails bs ++ x :: rest) :
    ¬ l.Fits (l.tails bs ++ [x]) := by
  cases bs with
  | nil => simp [tails] at h
  | cons b bs =>
    by_cases hb : (decide (l.lo ≤ b) && decide (b ≤ l.hi)) = true
    · rw [tails, if_pos hb] at h short ⊢
      obtain ⟨-, h⟩ := List.cons.inj h
      have stop : isTail x = false :=
        eq_false_of_takeWhile_take (congrArg (fun l' => (l'.take (l.owed - 1)).takeWhile isTail)
          h.symm) (Nat.lt_sub_of_add_lt short)
      rintro ⟨-, all⟩
      simp [all x (List.mem_append_right _ (List.mem_singleton.mpr rfl))] at stop
    · rw [tails, if_neg hb] at h ⊢
      obtain ⟨rfl, -⟩ := List.cons.inj h
      rintro ⟨fits, -⟩
      exact hb (by simpa using fits)

/-! ## The character of a sequence -/

/-- The number of a character that has one. -/
theorem toNat_ofNat {n : Nat} (h : n.isValidChar) : (Char.ofNat n).val.toNat = n := by
  rw [Char.ofNat, dif_pos h]
  rfl

theorem codePoint_one (b t : UInt8) : codePoint b [t] = b.toNat % 32 * 64 + t.toNat % 64 := by
  simp [codePoint]

theorem codePoint_two (b t u : UInt8) :
    codePoint b [t, u] = (b.toNat % 16 * 64 + t.toNat % 64) * 64 + u.toNat % 64 := by
  simp [codePoint]

theorem codePoint_three (b t u v : UInt8) :
    codePoint b [t, u, v]
      = ((b.toNat % 8 * 64 + t.toNat % 64) * 64 + u.toNat % 64) * 64 + v.toNat % 64 := by
  simp [codePoint]

/-- **A sequence is how its character is spelled.** -/
theorem utf8EncodeChar_codePoint {b : UInt8} {l : Lead} {ts : Octets} (h : lead? b = some l)
    (fits : l.Fits ts) (whole : ts.length = l.owed) :
    String.utf8EncodeChar (Char.ofNat (codePoint b ts)) = b :: ts := by
  obtain ⟨⟨low, high⟩, owed, -⟩ := lead?_eq_some_iff.mp h
  rw [owed] at whole
  -- The number of tails decides which of the four spellings is meant.
  match ts with
  | [] => grind
  | [t] =>
    rw [Lead.Fits, Lead.bounds_iff h] at fits
    have hb : b.toNat < 224 := by grind
    have hc : (Char.ofNat (codePoint b [t])).val.toNat = b.toNat % 32 * 64 + t.toNat % 64 := by
      rw [toNat_ofNat (Or.inl (by rw [codePoint_one]; omega)), codePoint_one]
    simp only [String.utf8EncodeChar, hc]
    rw [if_neg (by omega), if_pos (by omega)]
    simp only [List.cons.injEq, ← UInt8.toNat_inj, UInt8.toNat_ofNat', and_true]
    omega
  | [t, u] =>
    rw [Lead.Fits, Lead.bounds_iff h] at fits
    have hu := isTail_iff.mp (fits.2 u (by simp))
    have hb : 224 ≤ b.toNat ∧ b.toNat < 240 := by grind
    have hc : (Char.ofNat (codePoint b [t, u])).val.toNat
        = (b.toNat % 16 * 64 + t.toNat % 64) * 64 + u.toNat % 64 := by
      rw [toNat_ofNat (by rw [codePoint_two, Nat.isValidChar]; omega), codePoint_two]
    simp only [String.utf8EncodeChar, hc]
    rw [if_neg (by omega), if_neg (by omega), if_pos (by omega)]
    simp only [List.cons.injEq, ← UInt8.toNat_inj, UInt8.toNat_ofNat', and_true]
    omega
  | [t, u, v] =>
    rw [Lead.Fits, Lead.bounds_iff h] at fits
    have hu := isTail_iff.mp (fits.2 u (by simp))
    have hv := isTail_iff.mp (fits.2 v (by simp))
    have hb : 240 ≤ b.toNat := by grind
    have hc : (Char.ofNat (codePoint b [t, u, v])).val.toNat
        = ((b.toNat % 8 * 64 + t.toNat % 64) * 64 + u.toNat % 64) * 64 + v.toNat % 64 := by
      rw [toNat_ofNat (by rw [codePoint_three, Nat.isValidChar]; omega), codePoint_three]
    simp only [String.utf8EncodeChar, hc]
    rw [if_neg (by omega), if_neg (by omega), if_neg (by omega)]
    simp only [List.cons.injEq, ← UInt8.toNat_inj, UInt8.toNat_ofNat', and_true]
    omega
  | _ :: _ :: _ :: _ :: _ => grind

/-- A character below `80` is spelled by the octet of its number. -/
theorem utf8EncodeChar_ascii {c : Char} (h : c.val.toNat < 128) :
    String.utf8EncodeChar c = [UInt8.ofNat c.val.toNat] := by
  rw [String.utf8EncodeChar, if_pos (by omega)]

/-- An octet below `80` spells the character of its number. -/
theorem utf8EncodeChar_ofNat {b : UInt8} (ascii : b < 0x80) :
    String.utf8EncodeChar (Char.ofNat b.toNat) = [b] := by
  rw [lt_128_iff] at ascii
  have number : (Char.ofNat b.toNat).val.toNat = b.toNat := toNat_ofNat (.inl (by omega))
  rw [utf8EncodeChar_ascii (by omega), number, UInt8.ofNat_toNat]

/-- **Every other character is spelled by a sequence**, whose number it is. -/
theorem exists_sequence {c : Char} (h : 128 ≤ c.val.toNat) :
    ∃ b l ts, String.utf8EncodeChar c = b :: ts ∧ lead? b = some l ∧ l.Fits ts ∧
      ts.length = l.owed ∧ Char.ofNat (codePoint b ts) = c := by
  have valid : c.val.toNat.isValidChar := c.valid
  rw [Nat.isValidChar] at valid
  suffices ∃ b l ts, String.utf8EncodeChar c = b :: ts ∧ lead? b = some l ∧ l.Fits ts ∧
      ts.length = l.owed ∧ codePoint b ts = c.val.toNat by
    obtain ⟨b, l, ts, spelled, hl, fits, whole, number⟩ := this
    exact ⟨b, l, ts, spelled, hl, fits, whole, by rw [number]; exact Char.ofNat_toNat c⟩
  simp only [String.utf8EncodeChar]
  generalize c.val.toNat = v at h valid ⊢
  have tail (n : Nat) : (UInt8.ofNat (n % 64 + 128)).toNat = n % 64 + 128 := by
    rw [UInt8.toNat_ofNat']
    omega
  rw [if_neg (by omega)]
  split
  · next two =>
    have hb : (UInt8.ofNat (v / 64 % 32 + 192)).toNat = v / 64 + 192 := by
      rw [UInt8.toNat_ofNat']
      omega
    obtain ⟨l, hl⟩ := exists_lead hb (by omega) (by omega)
    refine ⟨_, l, _, rfl, hl, ⟨(Lead.bounds_iff hl).mpr ?_, by simp⟩, ?_, ?_⟩
    · rw [hb, tail]
      omega
    · rw [(lead?_eq_some_iff.mp hl).2.1, if_pos (by omega)]
      rfl
    · rw [codePoint_one, hb, tail]
      omega
  split
  · next two three =>
    have hb : (UInt8.ofNat (v / 4096 % 16 + 224)).toNat = v / 4096 + 224 := by
      rw [UInt8.toNat_ofNat']
      omega
    obtain ⟨l, hl⟩ := exists_lead hb (by omega) (by omega)
    refine ⟨_, l, _, rfl, hl, ⟨(Lead.bounds_iff hl).mpr ?_, ?_⟩, ?_, ?_⟩
    · rw [hb, tail]
      omega
    · simp only [List.mem_singleton, forall_eq, isTail_iff, tail]
      omega
    · rw [(lead?_eq_some_iff.mp hl).2.1, if_neg (by omega), if_pos (by omega)]
      rfl
    · rw [codePoint_two, hb, tail, tail]
      omega
  · next two three =>
    have hb : (UInt8.ofNat (v / 262144 % 8 + 240)).toNat = v / 262144 + 240 := by
      rw [UInt8.toNat_ofNat']
      omega
    obtain ⟨l, hl⟩ := exists_lead hb (by omega) (by omega)
    refine ⟨_, l, _, rfl, hl, ⟨(Lead.bounds_iff hl).mpr ?_, ?_⟩, ?_, ?_⟩
    · rw [hb, tail]
      omega
    · simp only [List.mem_cons, List.not_mem_nil, or_false, forall_eq_or_imp, forall_eq,
        isTail_iff, tail]
      omega
    · rw [(lead?_eq_some_iff.mp hl).2.1, if_neg (by omega), if_neg (by omega)]
      rfl
    · rw [codePoint_three, hb, tail, tail, tail]
      omega

/-- No octet below `80` is in the spelling of such a character. -/
theorem not_ascii_of_mem_utf8EncodeChar {c : Char} (h : 128 ≤ c.val.toNat) {x : UInt8}
    (there : x ∈ String.utf8EncodeChar c) : ¬ x < 0x80 := by
  obtain ⟨b, l, ts, spelled, lead, fits, -⟩ := exists_sequence h
  rw [spelled, List.mem_cons] at there
  rcases there with rfl | tail
  · exact not_ascii_of_lead? lead
  · cases ts with
    | nil => exact absurd tail List.not_mem_nil
    | cons t ts =>
      rw [lt_128_iff]
      rcases List.mem_cons.mp tail with rfl | later
      · have bounds := (Lead.bounds_iff lead).mp fits.1
        omega
      · have bounds := isTail_iff.mp (fits.2 x later)
        omega

end NestedSession.Utf8
