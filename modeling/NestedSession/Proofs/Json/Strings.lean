import NestedSession.Json.Reading
import NestedSession.Proofs.Text.Written

/-!
# Proofs/Json/Strings — a JSON string is read as what was written

A character of a string stands for itself, or is escaped by a letter or by its number
(`escapeChar_cases`).  The reader looks further than a number: two numbers in a row may be one
character.  What is written holds numbers of controls only, and those are never half of another
character (`escaped?_unit`).
-/

namespace NestedSession.Json

/-! ## How a string is written -/

/-- What stands between the quotes of a string. -/
def escapes (cs : List Char) : List Char := cs.flatMap fun c => (escapeChar c).toList

theorem escapes_cons (c : Char) (cs : List Char) :
    escapes (c :: cs) = (escapeChar c).toList ++ escapes cs := List.flatMap_cons

theorem toList_foldl_escapeChar (cs : List Char) (before : String) :
    (cs.foldl (fun acc c => acc ++ escapeChar c) before).toList = before.toList ++ escapes cs := by
  induction cs generalizing before with
  | nil => exact (List.append_nil _).symm
  | cons c cs ih => rw [List.foldl_cons, ih, String.toList_append, escapes_cons, List.append_assoc]

theorem toList_quoted (text : String) :
    (quoted text).toList = '"' :: (escapes text.toList ++ ['"']) := by
  rw [quoted, String.toList_append, toList_foldl_escapeChar]
  rfl

/-- A control has a number of four digits. -/
theorem exists_hex4 {n : Nat} (control : n < 0x20) :
    ∃ x y z w, (hex4 n).toList = [x, y, z, w] ∧ unit? [x, y, z, w] = some n := by
  have all : ∀ n < 0x20, (hex4 n).toList.length = 4 ∧ unit? (hex4 n).toList = some n := by
    decide +kernel
  obtain ⟨four, number⟩ := all n control
  generalize (hex4 n).toList = digits at four number ⊢
  match digits, four with
  | [x, y, z, w], _ => exact ⟨x, y, z, w, rfl, number⟩

/-- **How a character of a string is written**: as itself, by a letter, or by its number. -/
theorem escapeChar_cases (c : Char) :
    (escapeChar c).toList = [c] ∧ c ≠ '"' ∧ c ≠ '\\' ∧ 0x20 ≤ c.toNat
    ∨ (∃ letter, (escapeChar c).toList = ['\\', letter] ∧ letter ≠ 'u'
      ∧ ∀ rest, escaped? (letter :: rest) = some (c, rest))
    ∨ ∃ x y z w, (escapeChar c).toList = ['\\', 'u', x, y, z, w]
      ∧ unit? [x, y, z, w] = some c.toNat ∧ c.toNat < 0x20 := by
  rw [escapeChar.eq_def]
  split
  · exact .inr (.inl ⟨'"', rfl, by decide, fun _ => by simp [escaped?]⟩)
  · exact .inr (.inl ⟨'\\', rfl, by decide, fun _ => by simp [escaped?]⟩)
  · exact .inr (.inl ⟨'n', rfl, by decide, fun _ => by rw [escaped?]⟩)
  · exact .inr (.inl ⟨'r', rfl, by decide, fun _ => by rw [escaped?]⟩)
  · exact .inr (.inl ⟨'t', rfl, by decide, fun _ => by rw [escaped?]⟩)
  · exact .inr (.inl ⟨'b', rfl, by decide, fun _ => by rw [escaped?]⟩)
  · exact .inr (.inl ⟨'f', rfl, by decide, fun _ => by rw [escaped?]⟩)
  · next quote slash _ _ _ _ _ =>
    split
    · next control =>
      obtain ⟨x, y, z, w, digits, number⟩ := exists_hex4 control
      rw [String.toList_append, digits]
      exact .inr (.inr ⟨x, y, z, w, rfl, number, control⟩)
    · next visible =>
      exact .inl ⟨String.toList_singleton c, quote, slash, Nat.le_of_not_lt visible⟩

/-! ## How it is read -/

/-- **A number that is no half of a character** is read as that character, if another number right
behind it is one. -/
theorem escaped?_unit {x y z w : Char} {n : Nat} (number : unit? [x, y, z, w] = some n)
    (control : n < 0x20) {rest : List Char}
    (follow : ∀ e f g h r, rest = '\\' :: 'u' :: e :: f :: g :: h :: r →
      ∃ m, unit? [e, f, g, h] = some m) :
    escaped? ('u' :: x :: y :: z :: w :: rest) = some (Char.ofNat n, rest) := by
  have valid : n.isValidChar := .inl (by omega)
  have single : ¬ 0xD800 ≤ n := by omega
  by_cases second : ∃ e f g h r, rest = '\\' :: 'u' :: e :: f :: g :: h :: r
  · obtain ⟨e, f, g, h, r, rfl⟩ := second
    obtain ⟨m, low⟩ := follow e f g h r rfl
    rw [escaped?, number, low]
    simp [single, valid]
  · rw [escaped?, number]
    · simp [valid]
    · exact fun e f g h r eq => second ⟨e, f, g, h, r, eq⟩

/-- What is written has numbers that can be read. -/
theorem exists_unit_of_escapes {cs rest : List Char} {e f g h : Char} {r : List Char}
    (eq : escapes cs ++ '"' :: rest = '\\' :: 'u' :: e :: f :: g :: h :: r) :
    ∃ m, unit? [e, f, g, h] = some m := by
  rcases cs with _ | ⟨c, cs⟩
  · exact absurd (List.cons.inj eq).1 (by decide)
  rw [escapes_cons] at eq
  rcases escapeChar_cases c with ⟨itself, -, slash, -⟩ | ⟨letter, short, other, -⟩
    | ⟨x, y, z, w, long, number, -⟩
  · rw [itself] at eq
    exact absurd (List.cons.inj eq).1 slash
  · rw [short] at eq
    exact absurd (List.cons.inj (List.cons.inj eq).2).1 other
  · rw [long] at eq
    simp only [List.cons_append, List.cons.injEq, true_and] at eq
    obtain ⟨rfl, rfl, rfl, rfl, -⟩ := eq
    exact ⟨_, number⟩

/-- **What stands between quotes is read as it was**, as long as there are steps for all. -/
theorem string?_escapes (cs before rest : List Char) {fuel : Nat} (enough : cs.length < fuel) :
    string? fuel before (escapes cs ++ '"' :: rest)
      = some (String.ofList (before.reverse ++ cs), rest) := by
  induction cs generalizing before fuel with
  | nil =>
    obtain ⟨fuel, rfl⟩ := Nat.exists_eq_succ_of_ne_zero (Nat.ne_zero_of_lt enough)
    rw [List.append_nil]
    rfl
  | cons c cs ih =>
    obtain ⟨fuel, rfl⟩ := Nat.exists_eq_succ_of_ne_zero (Nat.ne_zero_of_lt enough)
    have next := ih (c :: before) (Nat.lt_of_succ_lt_succ enough)
    rw [List.reverse_cons, List.append_assoc, List.singleton_append] at next
    rw [escapes_cons, List.append_assoc, ← next]
    rcases escapeChar_cases c with ⟨itself, quote, slash, visible⟩ | ⟨letter, short, -, read⟩
      | ⟨x, y, z, w, long, number, control⟩
    · rw [itself, List.singleton_append, string?, if_neg (Nat.not_lt.mpr visible)]
      · exact quote
      · exact slash
    · rw [short, List.cons_append, List.singleton_append, string?, read]
      rfl
    · have follow (e f g h : Char) (r : List Char) := @exists_unit_of_escapes cs rest e f g h r
      have read := escaped?_unit number control follow
      rw [Char.ofNat_toNat] at read
      rw [long, List.cons_append, string?]
      simp only [List.cons_append, List.nil_append, read, Option.bind_eq_bind, Option.bind_some]

/-- No character is written as nothing. -/
theorem toList_escapeChar_ne_nil (c : Char) : (escapeChar c).toList ≠ [] := by
  rcases escapeChar_cases c with ⟨itself, -⟩ | ⟨letter, short, -⟩ | ⟨x, y, z, w, long, -⟩
  · simp [itself]
  · simp [short]
  · simp [long]

/-- **A string is read as what was written**, whatever follows it. -/
theorem string?_quoted (text : String) (rest : List Char) :
    ∃ body, (quoted text).toList ++ rest = '"' :: body
      ∧ string? (body.length + 1) [] body = some (text, rest) := by
  refine ⟨escapes text.toList ++ '"' :: rest, by simp [toList_quoted], ?_⟩
  have pieces : text.toList.length ≤ (escapes text.toList).length :=
    Text.length_le_length_flatMap _ toList_escapeChar_ne_nil _
  have enough : text.toList.length < (escapes text.toList ++ '"' :: rest).length + 1 := by
    rw [List.length_append]
    omega
  rw [string?_escapes text.toList [] rest enough, List.reverse_nil, List.nil_append,
    String.ofList_toList]

end NestedSession.Json
