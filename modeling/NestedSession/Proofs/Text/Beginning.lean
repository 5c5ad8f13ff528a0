import NestedSession.Proofs.Text.Occurrence

/-!
# Proofs/Text/Beginning — octets that begin a character

A character is spelled by the octet of its number or by a lead octet and the tails that fit it, as
many as owed (`Utf8.exists_utf8EncodeChar_eq_iff`).  Tails that fit can always be had
(`Utf8.Lead.exists_fits_append`); so octets begin a character exactly if they are such a beginning
(`Utf8.begins_cons_iff`, `Utf8.isPartial_cons_iff`).  What a decoder holds back begins a character
and does not complete it (`Utf8.isPartial_iff_isBegun`), and always more than one character could
come of it (`Utf8.IsPartial.exists_ne_replacement`).
-/

namespace NestedSession

namespace Utf8

/-- **Octets that begin the spelling of a character**, and may complete it. -/
def Begins (bs : Octets) : Prop := ∃ c : Char, bs <+: String.utf8EncodeChar c

/-- **Octets that begin the spelling of a character and do not complete it**, if only because there
are none. -/
def IsPartial (bs : Octets) : Prop :=
  ∃ c : Char, bs <+: String.utf8EncodeChar c ∧ bs ≠ String.utf8EncodeChar c

variable {b x : UInt8} {l : Lead} {ts bs : Octets}

/-! ## The tails of a lead octet -/

theorem Lead.lo_le_hi (h : lead? b = some l) : l.lo ≤ l.hi := by
  obtain ⟨-, -, lo, hi⟩ := lead?_eq_some_iff.mp h
  simp only [UInt8.le_iff_toNat_le, lo, hi, apply_ite UInt8.toNat, UInt8.reduceToNat]
  grind

/-- **Tails that fit can always be had**, as many as are owed. -/
theorem Lead.exists_fits_append (h : lead? b = some l) (fits : l.Fits ts)
    (short : ts.length ≤ l.owed) :
    ∃ more, l.Fits (ts ++ more) ∧ (ts ++ more).length = l.owed := by
  have tail {n : ℕ} : ∀ x ∈ List.replicate n (0x80 : UInt8), isTail x = true := by
    intro x there
    rw [List.eq_of_mem_replicate there]
    rfl
  cases ts with
  | nil =>
    have pos := (owed_mem h).1
    refine ⟨l.lo :: List.replicate (l.owed - 1) 0x80, ⟨⟨UInt8.le_refl _, lo_le_hi h⟩, tail⟩, ?_⟩
    simp only [List.nil_append, List.length_cons, List.length_replicate]
    omega
  | cons t ts =>
    refine ⟨List.replicate (l.owed - (t :: ts).length) 0x80, ⟨fits.1, fun x there => ?_⟩, ?_⟩
    · rcases List.mem_append.mp there with before | added
      · exact fits.2 x before
      · exact tail x added
    · rw [List.length_append, List.length_replicate]
      omega

/-! ## Whole spellings, and their beginnings -/

/-- **A spelling that starts with a lead octet** goes on with tails that fit, as many as owed. -/
theorem exists_utf8EncodeChar_eq_iff (h : lead? b = some l) :
    (∃ c, String.utf8EncodeChar c = b :: ts) ↔ l.Fits ts ∧ ts.length = l.owed := by
  constructor
  · rintro ⟨c, spelled⟩
    by_cases ascii : c.val.toNat < 128
    · rw [utf8EncodeChar_ascii ascii, List.cons.injEq] at spelled
      refine absurd ?_ (not_ascii_of_lead? h)
      rw [← spelled.1, lt_128_iff, UInt8.toNat_ofNat']
      omega
    · obtain ⟨b', l', ts', spelled', lead, fits, whole, -⟩ :=
        exists_sequence (Nat.le_of_not_lt ascii)
      obtain ⟨rfl, rfl⟩ := List.cons.inj (spelled'.symm.trans spelled)
      obtain rfl : l' = l := Option.some.inj (lead.symm.trans h)
      exact ⟨fits, whole⟩
  · rintro ⟨fits, whole⟩
    exact ⟨_, utf8EncodeChar_codePoint h fits whole⟩

/-- **Octets that start with a lead octet** begin a character exactly if the others fit it and are
not more than owed. -/
theorem begins_cons_iff (h : lead? b = some l) :
    Begins (b :: ts) ↔ l.Fits ts ∧ ts.length ≤ l.owed := by
  constructor
  · rintro ⟨c, more, spelled⟩
    obtain ⟨fits, whole⟩ := (exists_utf8EncodeChar_eq_iff h).mp ⟨c, spelled.symm⟩
    exact ⟨fits.left, whole ▸ (List.prefix_append ts more).length_le⟩
  · rintro ⟨fits, short⟩
    obtain ⟨more, whole⟩ := Lead.exists_fits_append h fits short
    obtain ⟨c, spelled⟩ := (exists_utf8EncodeChar_eq_iff h).mpr whole
    exact ⟨c, more, spelled.symm⟩

/-- …and do not complete it exactly if they are fewer. -/
theorem isPartial_cons_iff (h : lead? b = some l) :
    IsPartial (b :: ts) ↔ l.Fits ts ∧ ts.length < l.owed := by
  constructor
  · rintro ⟨c, begun, proper⟩
    obtain ⟨fits, short⟩ := (begins_cons_iff h).mp ⟨c, begun⟩
    refine ⟨fits, short.lt_of_ne fun whole => proper ?_⟩
    -- a beginning as long as the whole is the whole
    obtain ⟨more, spelled⟩ := begun
    have full : (ts ++ more).length = l.owed :=
      ((exists_utf8EncodeChar_eq_iff h).mp ⟨c, spelled.symm⟩).2
    rw [List.length_append, whole, Nat.add_eq_left, List.length_eq_zero_iff] at full
    rw [← spelled, full, List.append_nil]
  · rintro ⟨fits, short⟩
    obtain ⟨c, begun⟩ := (begins_cons_iff h).mpr ⟨fits, short.le⟩
    refine ⟨c, begun, fun spelled => short.ne ?_⟩
    exact ((exists_utf8EncodeChar_eq_iff h).mp ⟨c, spelled.symm⟩).2

/-- An octet that begins a character is one, or is a lead octet. -/
theorem begins_singleton_iff : Begins [x] ↔ x < 0x80 ∨ ∃ l, lead? x = some l := by
  constructor
  · rintro ⟨c, more, spelled⟩
    by_cases ascii : c.val.toNat < 128
    · rw [utf8EncodeChar_ascii ascii, List.singleton_append, List.cons.injEq] at spelled
      refine .inl ?_
      rw [spelled.1, lt_128_iff, UInt8.toNat_ofNat']
      omega
    · obtain ⟨b, l, ts, spelled', lead, -⟩ := exists_sequence (Nat.le_of_not_lt ascii)
      obtain ⟨rfl, -⟩ := List.cons.inj (spelled.trans spelled')
      exact .inr ⟨l, lead⟩
  · rintro (ascii | ⟨l, lead⟩)
    · exact ⟨Char.ofNat x.toNat, utf8EncodeChar_ofNat ascii ▸ List.prefix_rfl⟩
    · exact (begins_cons_iff lead).mpr ⟨trivial, Nat.zero_le _⟩

/-- Where a character is begun and not completed, there is nothing yet, or a lead octet. -/
theorem IsPartial.exists_lead (h : IsPartial (b :: ts)) : ∃ l, lead? b = some l := by
  obtain ⟨c, begun, proper⟩ := h
  by_cases ascii : c.val.toNat < 128
  · rw [utf8EncodeChar_ascii ascii] at begun proper
    obtain ⟨rfl, rest⟩ := List.cons_prefix_cons.mp begun
    exact absurd (List.prefix_nil.mp rest ▸ rfl) proper
  · obtain ⟨b', l, ts', spelled, lead, -⟩ := exists_sequence (Nat.le_of_not_lt ascii)
    rw [spelled, List.cons_prefix_cons] at begun
    exact ⟨l, begun.1 ▸ lead⟩

/-- **What a decoder holds back begins a character and does not complete it**, and any such octets
may be held back. -/
theorem isPartial_iff_isBegun : IsPartial bs ↔ Decoder.IsBegun bs := by
  cases bs with
  | nil => exact iff_of_true ⟨'a', List.nil_prefix, by decide⟩ trivial
  | cons b ts =>
    constructor
    · intro h
      obtain ⟨l, lead⟩ := h.exists_lead
      exact ⟨l, lead, (isPartial_cons_iff lead).mp h⟩
    · rintro ⟨l, lead, begun⟩
      exact (isPartial_cons_iff lead).mpr begun

/-- **A character that is begun need not be U+FFFD.** -/
theorem IsPartial.exists_ne_replacement (h : IsPartial bs) :
    ∃ c ≠ replacement, ∃ rest, bs ++ rest = String.utf8EncodeChar c := by
  obtain ⟨c, begun, proper⟩ := h
  by_cases same : c = replacement
  · -- what begins it begins the character before it as well, for they differ in the last octet
    subst same
    have spelled : String.utf8EncodeChar replacement = [0xEF, 0xBF] ++ [0xBD] := by decide
    rw [spelled] at begun proper
    have begun := (List.prefix_concat_iff.mp begun).resolve_left proper
    refine ⟨'\uFFFC', by decide, begun.trans ?_⟩
    exact (by decide : String.utf8EncodeChar '\uFFFC' = [0xEF, 0xBF] ++ [0xBC]) ▸
      List.prefix_append _ _
  · exact ⟨c, same, begun⟩

end Utf8

end NestedSession
