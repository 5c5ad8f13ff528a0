import Mathlib.Data.List.Basic
import Mathlib.Data.List.TakeWhile
import NestedSession.Proofs.Text.Written
import NestedSession.Proofs.Toml.Strings
import NestedSession.Toml.Document

/-!
# Proofs/Toml/Values — a value is read as what was written

Each kind of value has its writer, and what it writes is read as that value where a line ends
behind it: truth values and numbers are words (`word?_line`), a string says itself where it ends,
and a list of strings is read with whatever its lines look like (`value?_writeStrings`).
-/

namespace NestedSession.Toml

/-! ## Words -/

theorem isWordChar_of_isDigit {c : Char} (digit : c.isDigit = true) : isWordChar c = true := by
  have apart : "=,[]\x7b\x7d \t#\r\n".toList.all (!·.isDigit) = true := rfl
  rw [isWordChar, Bool.not_eq_true', ← Bool.not_eq_true, List.contains_iff_mem]
  intro there
  simpa [digit] using List.all_eq_true.mp apart c there

/-- A word ends with its line. -/
theorem word?_line {word : List Char} (all : word.all isWordChar = true) (rest : List Char) :
    word? (word ++ '\n' :: rest) = (ofWord? word).map (·, '\n' :: rest) := by
  have inside : ∀ c ∈ word, isWordChar c = true := List.all_eq_true.mp all
  have outside : isWordChar '\n' = false := by decide
  rw [word?, List.takeWhile_append_of_pos inside, List.dropWhile_append_of_pos inside,
    List.takeWhile_cons_of_neg (Bool.eq_false_iff.mp outside),
    List.dropWhile_cons_of_neg (Bool.eq_false_iff.mp outside), List.append_nil]
  rfl

/-- What does not begin with a quote or a bracket is a word. -/
theorem value?_of_word {c : Char} (s : List Char)
    (apart : c ≠ '"' ∧ c ≠ '\'' ∧ c ≠ '[' ∧ c ≠ '\x7b') (levels : Nat) :
    value? levels (c :: s) = word? (c :: s) := by
  obtain ⟨double, single, bracket, brace⟩ := apart
  have scalar : scalar? (c :: s) = word? (c :: s) := by
    rw [scalar?.eq_def]
    split
    · next eq => exact absurd (List.cons.inj eq).1 double
    · next eq => exact absurd (List.cons.inj eq).1 single
    · rfl
  rw [← scalar, value?.eq_def]
  split
  · rfl
  · split
    · next eq => exact absurd (List.cons.inj eq).1 bracket
    · next eq => exact absurd (List.cons.inj eq).1 brace
    · rfl

/-- **A truth value is read as what was written.** -/
theorem value?_writeBool (b : Bool) (levels : Nat) (rest : List Char) :
    value? levels (writeBool b ++ '\n' :: rest) = some (.boolean b, '\n' :: rest) := by
  cases b with
  | true =>
    refine (value?_of_word _ (by decide) levels).trans ?_
    exact word?_line (by decide : "true".toList.all isWordChar = true) rest
  | false =>
    refine (value?_of_word _ (by decide) levels).trans ?_
    exact word?_line (by decide : "false".toList.all isWordChar = true) rest

/-! ## Numbers -/

theorem hexDigit?_of_isDigit {c : Char} (digit : c.isDigit = true) :
    hexDigit? c = some (c.toNat - 48) := if_pos digit

/-- A number of digits is read whole or not at all. -/
theorem fixed?_eq (n : Nat) (s : List Char) :
    fixed? n s = none ∨ ∃ x, fixed? n s = some (x, s.drop n) := by
  rw [fixed?]
  split
  · exact .inr ⟨_, rfl⟩
  · exact .inl rfl

section Digits

variable {ds : List Char} (digits : ∀ c ∈ ds, c.isDigit = true)
include digits

/-- What is no digit does not stand behind some digits. -/
theorem drop_ne_of_not_isDigit {c : Char} (other : c.isDigit = false) (n : Nat) (r : List Char) :
    ds.drop n ≠ c :: r := fun eq =>
  Bool.eq_false_iff.mp other (digits c (List.mem_of_mem_drop (eq ▸ List.mem_cons_self)))

theorem afterMinutes?_digits : afterMinutes? ds = none := by
  rw [afterMinutes?]
  rcases fixed?_eq 2 ds with none | ⟨x, eq⟩
  · rw [none]
    rfl
  · rw [eq]
    simp only [Option.bind_eq_bind, Option.bind_some]
    split
    · next colon => exact absurd colon (drop_ne_of_not_isDigit digits (by decide) 2 _)
    · rfl

theorem afterDate?_digits : afterDate? ds = none := by
  rw [afterDate?]
  rcases fixed?_eq 4 ds with none | ⟨x, eq⟩
  · rw [none]
    rfl
  · rw [eq]
    simp only [Option.bind_eq_bind, Option.bind_some]
    split
    · next dash => exact absurd dash (drop_ne_of_not_isDigit digits (by decide) 4 _)
    · rfl

/-- Digits alone are no date and no time. -/
theorem isDateTime_digits : isDateTime ds = false := by
  have time : afterTime? ds = none := by
    rw [afterTime?, afterMinutes?_digits digits]
    rfl
  rw [isDateTime, time, afterDate?_digits digits]
  rfl

/-- The number that digits write is the one that they are the digits of. -/
theorem numberOf_eq_ofDigitChars : numberOf 10 ds = Nat.ofDigitChars 10 ds 0 := by
  rw [numberOf, Nat.ofDigitChars_eq_foldl]
  refine List.foldl_ext _ _ 0 fun n c there => ?_
  rw [digitValue, hexDigit?_of_isDigit (digits c there)]
  rfl

/-- Digits write a number that fits. -/
theorem ofDigits_digits (some_ : ds ≠ []) {n : Nat} (writes : numberOf 10 ds = n)
    (small : n < UInt64.size) : ofDigits 10 false ds = .integer n := by
  have all : (ds.all fun c => (hexDigit? c).any (· < 10)) = true := by
    refine List.all_eq_true.mpr fun c there => ?_
    have digit := digits c there
    have last : c.toNat ≤ 57 := by
      simp only [Char.isDigit, Bool.and_eq_true, decide_eq_true_eq] at digit
      exact digit.2
    rw [hexDigit?_of_isDigit digit, Option.any_some, decide_eq_true_eq]
    omega
  have fits : -(Nat.pow 2 127 : Int) ≤ (n : Int) ∧ (n : Int) < Nat.pow 2 128 := by
    simp only [UInt64.size, Nat.pow_eq] at small ⊢
    omega
  rw [ofDigits, all, writes, if_pos (by simpa using some_)]
  exact if_pos (by simpa using fits)

end Digits

theorem isDigit_of_mem_writeNat {n : Nat} : ∀ c ∈ writeNat n, c.isDigit = true := fun _ there =>
  Nat.isDigit_of_mem_toDigits (by decide) (by decide) there

theorem decimal?_writeNat {n : Nat} (small : n < UInt64.size) :
    decimal? (writeNat n) = some (.integer n) := by
  rcases Nat.eq_zero_or_pos n with rfl | positive
  · rfl
  have digits : ∀ c ∈ writeNat n, c.isDigit = true := isDigit_of_mem_writeNat
  have some_ : writeNat n ≠ [] := Nat.toDigits_ne_nil
  have writes : numberOf 10 (writeNat n) = n := by
    rw [numberOf_eq_ofDigitChars digits, writeNat, Nat.ofDigitChars_ten_toDigits]
  have idle : (writeNat n).head? ≠ some '0' := Text.head?_toDigits_ne positive
  generalize writeNat n = ds at *
  have unsigned : sign ds = (false, ds) := by
    rw [sign.eq_def]
    split
    · exact absurd (digits '-' List.mem_cons_self) (by decide)
    · exact absurd (digits '+' List.mem_cons_self) (by decide)
    · rfl
  have zero : ds ≠ ['0'] := fun eq => idle (eq ▸ rfl)
  rw [decimal?, unsigned]
  dsimp only
  rw [List.takeWhile_eq_self_iff.mpr digits, List.dropWhile_eq_nil_iff.mpr digits, if_neg zero,
    if_neg (by simp [idle, some_]), if_pos List.isEmpty_nil,
    ofDigits_digits digits some_ writes small]

theorem ofWord?_writeNat {n : Nat} (small : n < UInt64.size) :
    ofWord? (writeNat n) = some (.integer n) := by
  have digits : ∀ c ∈ writeNat n, c.isDigit = true := isDigit_of_mem_writeNat
  have read := decimal?_writeNat small
  generalize writeNat n = ds at *
  -- no mark of another base and no letter of a truth value is a digit
  have whole : integer? ds = decimal? ds := by
    rw [integer?.eq_def]
    split
    · exact absurd (digits 'x' (by simp)) (by decide)
    · exact absurd (digits 'o' (by simp)) (by decide)
    · exact absurd (digits 'b' (by simp)) (by decide)
    · rfl
  have no_true : ds ≠ ['t', 'r', 'u', 'e'] := by
    rintro rfl
    exact absurd (digits 't' List.mem_cons_self) (by decide)
  have no_false : ds ≠ ['f', 'a', 'l', 's', 'e'] := by
    rintro rfl
    exact absurd (digits 'f' List.mem_cons_self) (by decide)
  rw [ofWord?, if_neg no_true, if_neg no_false, isDateTime_digits digits, if_neg Bool.false_ne_true,
    whole, read]
  rfl

/-- **A number is read as what was written**, if it has no more than 64 bits. -/
theorem value?_writeNat {n : Nat} (small : n < UInt64.size) (levels : Nat) (rest : List Char) :
    value? levels (writeNat n ++ '\n' :: rest) = some (.integer n, '\n' :: rest) := by
  have inside : (writeNat n).all isWordChar = true :=
    List.all_eq_true.mpr fun c there => isWordChar_of_isDigit (isDigit_of_mem_writeNat c there)
  have word : word? (writeNat n ++ '\n' :: rest) = some (.integer n, '\n' :: rest) := by
    rw [word?_line inside, ofWord?_writeNat small]
    rfl
  rw [← word]
  obtain ⟨c, s, eq, digit⟩ := Text.exists_head_toDigits n
  rw [writeNat, eq]
  refine value?_of_word _ ⟨?_, ?_, ?_, ?_⟩ levels <;> rintro rfl <;> exact absurd digit (by decide)

/-! ## Texts -/

/-- A string begins with the quotes that it says it stands in. -/
theorem exists_head_writeString (text : String) :
    (∃ s, writeString text = '"' :: s) ∨ ∃ s, writeString text = '\'' :: s := by
  rw [writeString]
  cases formOf text.toList with
  | basic => exact .inl ⟨_, rfl⟩
  | literal => exact .inr ⟨_, rfl⟩
  | basicLines => exact .inl ⟨_, rfl⟩
  | literalLines => exact .inr ⟨_, rfl⟩

/-- **A text is read as what was written**, where no quote follows. -/
theorem value?_writeString (text : String) (levels : Nat) {c : Char} (other : c ≠ '"')
    (other' : c ≠ '\'') (rest : List Char) :
    value? levels (writeString text ++ c :: rest) = some (.text text, c :: rest) := by
  have read : string? (writeString text ++ c :: rest) = some (text, c :: rest) :=
    string?_writeString text (by simp [other]) (by simp [other'])
  have scalar : value? levels (writeString text ++ c :: rest)
      = (string? (writeString text ++ c :: rest)).map fun p => (.text p.1, p.2) := by
    rcases exists_head_writeString text with ⟨s, eq⟩ | ⟨s, eq⟩
    · rw [eq]
      cases levels <;> rfl
    · rw [eq]
      cases levels <;> rfl
  rw [scalar, read]
  rfl

/-! ## Lists of texts -/

/-- A string on a line of its own in a list. -/
def itemLine (t : String) : List Char := [' ', ' ', ' ', ' '] ++ writeString t ++ [',', '\n']

/-- What stands before a string in a list is skipped, the string is not. -/
theorem skipFiller_writeString (text : String) (rest : List Char) :
    skipFiller false (writeString text ++ rest) = some (writeString text ++ rest) := by
  rcases exists_head_writeString text with ⟨s, eq⟩ | ⟨s, eq⟩
  · rw [eq]
    rfl
  · rw [eq]
    rfl

section Items

variable {value : List Char → Option (Tree × List Char)} {s s' r r' rest : List Char} {v : Tree}

/-- A list may end right away. -/
theorem items?_nil (here : skipFiller false s = some (']' :: rest)) (fuel : Nat) :
    items? value (fuel + 1) s = some ([], rest) := by
  rw [items?, here]
  rfl

/-- The last value of a list need not have a comma behind it. -/
theorem items?_last (here : skipFiller false s = some s') (more : s'.head? ≠ some ']')
    (read : value s' = some (v, r)) (behind : skipFiller false r = some (']' :: rest))
    (fuel : Nat) : items? value (fuel + 1) s = some ([(s'.length, v)], rest) := by
  rw [items?, here]
  simp only [Option.bind_eq_bind, Option.bind_some]
  split
  · exact absurd rfl more
  · simp only [read, behind, Option.bind_some]

/-- Behind a comma, the rest of a list stands. -/
theorem items?_cons (here : skipFiller false s = some s') (more : s'.head? ≠ some ']')
    (read : value s' = some (v, r)) (behind : skipFiller false r = some (',' :: r'))
    {fuel : Nat} {vs : List (Nat × Tree)} (others : items? value fuel r' = some (vs, rest)) :
    items? value (fuel + 1) s = some ((s'.length, v) :: vs, rest) := by
  rw [items?, here]
  simp only [Option.bind_eq_bind, Option.bind_some]
  split
  · exact absurd rfl more
  · simp only [read, behind, others, Option.bind_some]

end Items

theorem head?_writeString_append (text : String) (rest : List Char) :
    (writeString text ++ rest).head? ≠ some ']' := by
  rcases exists_head_writeString text with ⟨s, eq⟩ | ⟨s, eq⟩ <;> simp [eq]

/-- **Strings on lines of their own are read as a list**, as long as there are steps for all. -/
theorem items?_lines (ts : List String) (levels : Nat) (rest : List Char) {fuel : Nat}
    (enough : ts.length < fuel) :
    ∃ items, items? (value? levels) fuel ('\n' :: (ts.flatMap itemLine ++ ']' :: rest))
        = some (items, rest) ∧ items.map Prod.snd = ts.map .text := by
  induction ts generalizing fuel with
  | nil =>
    obtain ⟨fuel, rfl⟩ := Nat.exists_eq_succ_of_ne_zero (Nat.ne_zero_of_lt enough)
    exact ⟨[], items?_nil rfl fuel, rfl⟩
  | cons t ts ih =>
    obtain ⟨fuel, rfl⟩ := Nat.exists_eq_succ_of_ne_zero (Nat.ne_zero_of_lt enough)
    obtain ⟨items, others, texts⟩ := ih (Nat.lt_of_succ_lt_succ enough)
    have here (behind : List Char) : skipFiller false
        ('\n' :: ' ' :: ' ' :: ' ' :: ' ' :: (writeString t ++ behind))
          = some (writeString t ++ behind) := skipFiller_writeString t behind
    have read := items?_cons (here _) (head?_writeString_append t _)
      (value?_writeString t levels (by decide : ',' ≠ '"') (by decide) _) rfl others
    simp only [itemLine, List.flatMap_cons, List.cons_append, List.nil_append, List.append_assoc]
    exact ⟨_, read, congrArg (Tree.text t :: ·) texts⟩

/-- **A list of texts is read as what was written**, each in its place. -/
theorem value?_writeStrings (ts : List String) (levels : Nat) (rest : List Char) :
    ∃ items, value? (levels + 1) (writeStrings ts ++ rest) = some (.array items, rest)
      ∧ items.map Prod.snd = ts.map .text := by
  have opened {s : List Char} {items : List (Nat × Tree)}
      (read : items? (value? levels) (s.length + 1) s = some (items, rest)) :
      value? (levels + 1) ('[' :: s) = some (.array items, rest) := by
    rw [value?.eq_def]
    simp only [read, Option.bind_eq_bind, Option.bind_some]
  match ts with
  | [] => exact ⟨[], rfl, rfl⟩
  | [t] =>
    have read := items?_last (skipFiller_writeString t (']' :: rest))
      (head?_writeString_append t _) (value?_writeString t levels (by decide) (by decide) _) rfl
    refine ⟨[((writeString t ++ ']' :: rest).length, .text t)], ?_, rfl⟩
    simpa only [writeStrings, List.cons_append, List.append_assoc, List.nil_append] using
      opened (read _)
  | t :: t' :: ts =>
    have lines : writeStrings (t :: t' :: ts) ++ rest
        = '[' :: '\n' :: ((t :: t' :: ts).flatMap itemLine ++ ']' :: rest) := by
      simp only [writeStrings, List.cons_append, List.append_assoc, List.nil_append]
      rfl
    rw [lines]
    generalize t :: t' :: ts = ts
    have enough : ts.length ≤ ('\n' :: (ts.flatMap itemLine ++ ']' :: rest)).length := by
      have items := Text.length_le_length_flatMap itemLine (fun _ => List.cons_ne_nil _ _) ts
      rw [List.length_cons, List.length_append]
      omega
    obtain ⟨items, read, texts⟩ := items?_lines ts levels rest (Nat.lt_succ_of_le enough)
    exact ⟨items, opened read, texts⟩

end NestedSession.Toml
