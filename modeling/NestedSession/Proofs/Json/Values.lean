import Mathlib.Data.List.DropRight
import NestedSession.Proofs.Json.Strings

/-!
# Proofs/Json/Values — a value is read as what was written

What is written for a reader is read back whole (`parse?_pretty`), if its numbers can be told from
their digits (`IsExact`).  A number has no end of its own, so it matters what follows it
(`EndsNumber`); every other value ends itself.  The reader counts how deep values nest and how many
of them stand in a row; both are fewer than the text has characters.
-/

namespace NestedSession.Json

/-- **A value whose numbers can be told from their digits**: they are whole, and 64 bits hold
them. -/
inductive IsExact : Json → Prop
  | null : IsExact .null
  | bool (b : Bool) : IsExact (.bool b)
  | int {n : Int} (low : -(2 ^ 63) ≤ n) (high : n < 2 ^ 64) : IsExact (.int n)
  | str (text : String) : IsExact (.str text)
  | arr {elements : List Json} (all : ∀ e ∈ elements, IsExact e) : IsExact (.arr elements)
  | obj {members : List (String × Json)} (all : ∀ m ∈ members, IsExact m.2) :
      IsExact (.obj members)

theorem IsExact.strs (texts : List String) : (Json.arr (texts.map .str)).IsExact :=
  .arr (List.forall_mem_map.mpr fun text _ => .str text)

/-! ## Numbers -/

/-- What may stand behind a number: none of it is taken for a part of the number. -/
def EndsNumber (rest : List Char) : Prop :=
  ∀ c ∈ rest.head?, c.isDigit = false ∧ c ≠ '.' ∧ c ≠ 'e' ∧ c ≠ 'E'

theorem exponent?_of_ends {rest : List Char} (ends : EndsNumber rest) :
    exponent? rest = some (0, rest) := by
  rcases rest with _ | ⟨c, rest⟩
  · rfl
  · obtain ⟨-, -, small, large⟩ := ends c rfl
    simp [exponent?, small, large]

theorem le_ofDigitChars (ds : List Char) (n : Nat) : n ≤ Nat.ofDigitChars 10 ds n := by
  induction ds generalizing n with
  | nil => exact Nat.le_refl n
  | cons c ds ih =>
    rw [Nat.ofDigitChars_cons]
    exact Nat.le_trans (by omega) (ih _)

/-- All digits are taken into a number that 64 bits hold. -/
theorem gather_eq {n : Nat} {ds : List Char} (small : Nat.ofDigitChars 10 ds n < UInt64.size) :
    gather n ds = (Nat.ofDigitChars 10 ds n, []) := by
  induction ds generalizing n with
  | nil => rfl
  | cons c ds ih =>
    rw [Nat.ofDigitChars_cons] at small ⊢
    have fits := Nat.lt_of_le_of_lt (le_ofDigitChars ds _) small
    rw [gather]
    exact (if_pos fits).trans (ih small)

section

variable {n : Nat} {rest : List Char}

theorem gather_toDigits (small : n < UInt64.size) : gather 0 (Nat.toDigits 10 n) = (n, []) := by
  rw [gather_eq, Nat.ofDigitChars_ten_toDigits]
  rwa [Nat.ofDigitChars_ten_toDigits]

theorem takeWhile_toDigits (ends : EndsNumber rest) :
    (Nat.toDigits 10 n ++ rest).takeWhile Char.isDigit = Nat.toDigits 10 n
      ∧ (Nat.toDigits 10 n ++ rest).dropWhile Char.isDigit = rest := by
  have digits : ∀ c ∈ Nat.toDigits 10 n, c.isDigit = true := fun _ =>
    Nat.isDigit_of_mem_toDigits (by decide) (by decide)
  rw [List.takeWhile_append_of_pos digits, List.dropWhile_append_of_pos digits]
  rcases rest with _ | ⟨c, rest⟩
  · simp
  · simp [ends c rfl]

/-- The digits of a number are some, and a zero in front is the only one. -/
theorem toDigits_accepted (n : Nat) : ¬ ((Nat.toDigits 10 n).isEmpty
    || (Nat.toDigits 10 n).head? = some '0' && (Nat.toDigits 10 n).length ≠ 1) = true := by
  rcases Nat.eq_zero_or_pos n with rfl | positive
  · decide
  · simp [Text.head?_toDigits_ne positive]

theorem number?_toDigits (small : n < 2 ^ 64) (ends : EndsNumber rest) :
    number? (Nat.toDigits 10 n ++ rest) = some (.int n, rest) := by
  obtain ⟨taken, left⟩ := takeWhile_toDigits (n := n) ends
  obtain ⟨c, s, first, digit⟩ := Text.exists_head_toDigits n
  rw [number?, taken, left, if_neg (toDigits_accepted n)]
  · dsimp only
    split
    · exact absurd rfl (ends '.' rfl).2.1
    · simp [exponent?_of_ends ends, gather_toDigits small]
  · rw [first]
    rintro r ⟨⟩
    exact absurd digit (by decide)

theorem number?_minus (positive : 0 < n) (small : n ≤ 2 ^ 63) (ends : EndsNumber rest) :
    number? ('-' :: (Nat.toDigits 10 n ++ rest)) = some (.int (-n), rest) := by
  obtain ⟨taken, left⟩ := takeWhile_toDigits (n := n) ends
  have fits : n < UInt64.size := Nat.lt_of_le_of_lt small (by decide)
  have held : ¬ 9223372036854775808 < n := Nat.not_lt.mpr small
  rw [number?, taken, left, if_neg (toDigits_accepted n)]
  dsimp only
  split
  · exact absurd rfl (ends '.' rfl).2.1
  · simp [exponent?_of_ends ends, gather_toDigits fits, positive, held]

end

/-! ## Where a value begins -/

/-- What a value can begin with. -/
def isFirst (c : Char) : Bool :=
  c.isDigit || c = '-' || c = 'n' || c = 't' || c = 'f' || c = '"' || c = '[' || c = '{'

/-- A text that begins like a value. -/
def Begins (s : List Char) : Prop := ∃ c r, s = c :: r ∧ isFirst c = true

theorem Begins.append {s : List Char} (h : Begins s) (rest : List Char) : Begins (s ++ rest) := by
  obtain ⟨c, r, rfl, first⟩ := h
  exact ⟨c, r ++ rest, rfl, first⟩

theorem Begins.skipBlank_eq {s : List Char} (h : Begins s) : skipBlank s = s := by
  obtain ⟨c, r, rfl, first⟩ := h
  refine List.dropWhile_cons_of_neg fun blank => ?_
  simp only [Bool.or_eq_true, decide_eq_true_eq] at blank
  rcases blank with ((rfl | rfl) | rfl) | rfl <;> exact absurd first (by decide)

theorem Begins.head?_ne {s : List Char} (h : Begins s) {c : Char} (other : isFirst c = false) :
    s.head? ≠ some c := by
  obtain ⟨c', r, rfl, first⟩ := h
  rintro ⟨⟩
  exact Bool.eq_false_iff.mp other first

theorem skipBlank_comma (s : List Char) : skipBlank (',' :: s) = ',' :: s := rfl

theorem skipBlank_newline (depth : Nat) (s : List Char) :
    skipBlank ((newline depth).toList ++ s) = skipBlank s := by
  refine List.dropWhile_append_of_pos fun c there => ?_
  simp only [newline, String.toList_append, String.toList_ofList, List.mem_append,
    List.mem_replicate] at there
  rcases there with line | ⟨-, rfl⟩
  · obtain rfl : c = '\n' := by simpa using line
    rfl
  · rfl

theorem endsNumber_newline (depth : Nat) (s : List Char) :
    EndsNumber ((newline depth).toList ++ s) := by
  intro c first
  obtain rfl : c = '\n' := by simpa [newline, eq_comm] using first
  decide

/-! ## How elements and members are written -/

section

variable {α : Type} (depth : Nat) (piece : α → List Char) (x : α) (xs : List α)

/-- Pieces on lines of their own, behind the first line's indentation. -/
def rows : List Char := piece x ++ xs.flatMap fun y => ',' :: ((newline depth).toList ++ piece y)

theorem rows_cons (y : α) : rows depth piece x (y :: xs)
    = piece x ++ ',' :: ((newline depth).toList ++ rows depth piece y xs) := by
  simp [rows]

/-- There are no more pieces than characters. -/
theorem length_le_rows : xs.length ≤ (rows depth piece x xs).length := by
  have pieces := Text.length_le_length_flatMap
    (fun y => ',' :: ((newline depth).toList ++ piece y)) (fun _ => List.cons_ne_nil _ _) xs
  rw [rows, List.length_append]
  omega

/-- No piece is longer than all. -/
theorem length_piece_le_rows {y : α} (there : y ∈ x :: xs) :
    (piece y).length ≤ (rows depth piece x xs).length := by
  rw [rows]
  rcases List.mem_cons.mp there with rfl | there
  · simp
  · obtain ⟨before, after, rfl⟩ := List.append_of_mem there
    simp only [List.flatMap_append, List.flatMap_cons, List.length_append, List.length_cons]
    omega

theorem Begins.rows {x : α} (h : Begins (piece x)) : Begins (rows depth piece x xs) := by
  rw [Json.rows]
  exact h.append _

end

/-- An element of an array, without the comma behind it. -/
def elementText (depth : Nat) (e : Json) : List Char := (prettyAt depth e).toList

/-- A member of an object, without the comma behind it. -/
def memberText (depth : Nat) (m : String × Json) : List Char :=
  (quoted m.1).toList ++ ':' :: ' ' :: elementText depth m.2

theorem toList_prettyElements (depth : Nat) (e : Json) (es : List Json) :
    (prettyElements depth (e :: es)).toList
      = (newline depth).toList ++ rows depth (elementText depth) e es := by
  induction es generalizing e with
  | nil => simp [prettyElements, rows, elementText]
  | cons e' es ih => simp [prettyElements, ih, rows_cons, elementText]

theorem toList_prettyMembers (depth : Nat) (m : String × Json) (ms : List (String × Json)) :
    (prettyMembers depth (m :: ms)).toList
      = (newline depth).toList ++ rows depth (memberText depth) m ms := by
  induction ms generalizing m with
  | nil => simp [prettyMembers, rows, memberText, elementText]
  | cons m' ms ih => simp [prettyMembers, ih, rows_cons, memberText, elementText]

theorem toList_prettyAt_arr (depth : Nat) (e : Json) (es : List Json) :
    (prettyAt depth (.arr (e :: es))).toList
      = '[' :: ((newline (depth + 1)).toList ++ (rows (depth + 1) (elementText (depth + 1)) e es
        ++ ((newline depth).toList ++ [']']))) := by
  simp [prettyAt, toList_prettyElements]

theorem toList_prettyAt_obj (depth : Nat) (m : String × Json) (ms : List (String × Json)) :
    (prettyAt depth (.obj (m :: ms))).toList
      = '{' :: ((newline (depth + 1)).toList ++ (rows (depth + 1) (memberText (depth + 1)) m ms
        ++ ((newline depth).toList ++ ['}']))) := by
  simp [prettyAt, toList_prettyMembers]

theorem begins_quoted (text : String) : Begins (quoted text).toList :=
  ⟨'"', _, toList_quoted text, by decide⟩

theorem begins_memberText (depth : Nat) (m : String × Json) : Begins (memberText depth m) :=
  (begins_quoted m.1).append _

theorem begins_prettyAt {v : Json} (told : v.IsExact) (depth : Nat) :
    Begins (prettyAt depth v).toList := by
  cases told with
  | null => exact ⟨'n', _, by rw [prettyAt]; rfl, by decide⟩
  | bool b => cases b with
    | false => exact ⟨'f', _, by rw [prettyAt]; rfl, by decide⟩
    | true => exact ⟨'t', _, by rw [prettyAt]; rfl, by decide⟩
  | @int n low high =>
    rw [prettyAt]
    obtain ⟨m, ⟨digits, -⟩ | ⟨-, digits, -⟩⟩ := Text.toList_toString_int n
    · obtain ⟨c, s, first, digit⟩ := Text.exists_head_toDigits m
      exact ⟨c, s, digits.trans first, by simp [isFirst, digit]⟩
    · exact ⟨'-', _, digits, by decide⟩
  | str text =>
    rw [prettyAt]
    exact begins_quoted text
  | @arr elements all => cases elements with
    | nil => exact ⟨'[', _, by rw [prettyAt]; rfl, by decide⟩
    | cons e es => exact ⟨'[', _, toList_prettyAt_arr .., by decide⟩
  | @obj members all => cases members with
    | nil => exact ⟨'{', _, by rw [prettyAt]; rfl, by decide⟩
    | cons m ms => exact ⟨'{', _, toList_prettyAt_obj .., by decide⟩

/-! ## How elements and members are read -/

section

variable {value : List Char → Option (Json × List Char)} {depth fuel : Nat}
  {s r r' rest : List Char}

/-- Blank space before an element does not count. -/
theorem elements?_newline (depth : Nat) (s : List Char) :
    elements? value fuel ((newline depth).toList ++ s) = elements? value fuel s := by
  cases fuel with
  | zero => rfl
  | succ fuel => rw [elements?, elements?, skipBlank_newline]

theorem members?_newline (depth : Nat) (s : List Char) :
    members? value fuel ((newline depth).toList ++ s) = members? value fuel s := by
  cases fuel with
  | zero => rfl
  | succ fuel => rw [members?, members?, skipBlank_newline]

section

variable {e : Json} (read : value (skipBlank s) = some (e, r))
include read

theorem elements?_last (behind : skipBlank r = ']' :: rest) :
    elements? value (fuel + 1) s = some ([e], rest) := by
  simp only [elements?, read, behind, Option.bind_eq_bind, Option.bind_some]

theorem elements?_cons (behind : skipBlank r = ',' :: r') {es : List Json}
    (others : elements? value fuel r' = some (es, rest)) :
    elements? value (fuel + 1) s = some (e :: es, rest) := by
  simp only [elements?, read, behind, others, Option.bind_eq_bind, Option.bind_some]

end

/-- What a member begins with: its name, a colon, and its value. -/
theorem exists_memberText {m : String × Json} (told : m.2.IsExact) (depth : Nat)
    (rest : List Char) : ∃ body value,
      skipBlank (memberText depth m ++ rest) = '"' :: body
      ∧ string? (body.length + 1) [] body = some (m.1, ':' :: value)
      ∧ skipBlank value = elementText depth m.2 ++ rest := by
  obtain ⟨body, quotes, name⟩ := string?_quoted m.1 (':' :: ' ' :: (elementText depth m.2 ++ rest))
  refine ⟨body, _, ?_, name, ((begins_prettyAt told depth).append rest).skipBlank_eq⟩
  rw [((begins_memberText depth m).append rest).skipBlank_eq, ← quotes, memberText,
    List.append_assoc, List.cons_append, List.cons_append]

section

variable {m : String × Json} (told : m.2.IsExact)
  (read : value (elementText depth m.2 ++ r) = some (m.2, r))
include told read

theorem members?_last (behind : skipBlank r = '}' :: rest) :
    members? value (fuel + 1) (memberText depth m ++ r) = some ([m], rest) := by
  obtain ⟨body, text, quotes, name, begins⟩ := exists_memberText told depth r
  have colon : skipBlank (':' :: text) = ':' :: text := rfl
  rw [members?, quotes]
  simp only [name, colon, begins, read, behind, Option.bind_eq_bind, Option.bind_some]

theorem members?_cons (behind : skipBlank r = ',' :: r') {ms : List (String × Json)}
    (others : members? value fuel r' = some (ms, rest)) :
    members? value (fuel + 1) (memberText depth m ++ r) = some (m :: ms, rest) := by
  obtain ⟨body, text, quotes, name, begins⟩ := exists_memberText told depth r
  have colon : skipBlank (':' :: text) = ':' :: text := rfl
  rw [members?, quotes]
  simp only [name, colon, begins, read, behind, others, Option.bind_eq_bind, Option.bind_some]

end

/-- **A value is read as what was written at a depth**, whatever may follow. -/
def Reads (value : List Char → Option (Json × List Char)) (depth : Nat) (v : Json) : Prop :=
  ∀ rest, EndsNumber rest → value ((prettyAt depth v).toList ++ rest) = some (v, rest)

theorem endsNumber_comma (s : List Char) : EndsNumber (',' :: s) := by
  rintro c ⟨⟩
  decide

/-- **Elements are read as what was written**, as long as there are steps for all. -/
theorem elements?_rows {e : Json} {es : List Json} (told : ∀ x ∈ e :: es, x.IsExact)
    (reads : ∀ x ∈ e :: es, Reads value depth x) (enough : es.length < fuel) (outer : Nat) :
    elements? value fuel (rows depth (elementText depth) e es
      ++ ((newline outer).toList ++ ']' :: rest)) = some (e :: es, rest) := by
  induction es generalizing e fuel with
  | nil =>
    obtain ⟨fuel, rfl⟩ := Nat.exists_eq_succ_of_ne_zero (Nat.ne_zero_of_lt enough)
    have behind : skipBlank ((newline outer).toList ++ ']' :: rest) = ']' :: rest :=
      skipBlank_newline outer _
    refine elements?_last ?_ behind
    have begins : Begins (elementText depth e) := begins_prettyAt (told e List.mem_cons_self) depth
    rw [rows, List.flatMap_nil, List.append_nil, (begins.append _).skipBlank_eq]
    exact reads e List.mem_cons_self _ (endsNumber_newline outer _)
  | cons e' es ih =>
    obtain ⟨fuel, rfl⟩ := Nat.exists_eq_succ_of_ne_zero (Nat.ne_zero_of_lt enough)
    obtain ⟨here, told⟩ := List.forall_mem_cons.mp told
    obtain ⟨read, reads⟩ := List.forall_mem_cons.mp reads
    have begins : Begins (elementText depth e) := begins_prettyAt here depth
    have others := (elements?_newline depth _).trans (ih told reads (Nat.lt_of_succ_lt_succ enough))
    rw [rows_cons, List.append_assoc, List.cons_append, List.append_assoc]
    refine elements?_cons ?_ (skipBlank_comma _) others
    rw [(begins.append _).skipBlank_eq]
    exact read _ (endsNumber_comma _)

/-- **Members are read as what was written**, as long as there are steps for all. -/
theorem members?_rows {m : String × Json} {ms : List (String × Json)}
    (told : ∀ x ∈ m :: ms, x.2.IsExact) (reads : ∀ x ∈ m :: ms, Reads value depth x.2)
    (enough : ms.length < fuel) (outer : Nat) :
    members? value fuel (rows depth (memberText depth) m ms
      ++ ((newline outer).toList ++ '}' :: rest)) = some (m :: ms, rest) := by
  induction ms generalizing m fuel with
  | nil =>
    obtain ⟨fuel, rfl⟩ := Nat.exists_eq_succ_of_ne_zero (Nat.ne_zero_of_lt enough)
    have behind : skipBlank ((newline outer).toList ++ '}' :: rest) = '}' :: rest :=
      skipBlank_newline outer _
    rw [rows, List.flatMap_nil, List.append_nil]
    exact members?_last (told m List.mem_cons_self)
      (reads m List.mem_cons_self _ (endsNumber_newline outer _)) behind
  | cons m' ms ih =>
    obtain ⟨fuel, rfl⟩ := Nat.exists_eq_succ_of_ne_zero (Nat.ne_zero_of_lt enough)
    obtain ⟨here, told⟩ := List.forall_mem_cons.mp told
    obtain ⟨read, reads⟩ := List.forall_mem_cons.mp reads
    have others := (members?_newline depth _).trans (ih told reads (Nat.lt_of_succ_lt_succ enough))
    rw [rows_cons, List.append_assoc, List.cons_append, List.append_assoc]
    exact members?_cons here (read _ (endsNumber_comma _)) (skipBlank_comma _) others

end

/-! ## All values -/

section

variable {s rest : List Char} {levels depth : Nat}

theorem value?_arr {es : List Json} (begins : Begins s)
    (read : elements? (value? levels) (s.length + 1) s = some (es, rest)) :
    value? (levels + 1) ('[' :: ((newline depth).toList ++ s)) = some (.arr es, rest) := by
  rw [value?, skipBlank_newline, begins.skipBlank_eq]
  split
  · exact absurd rfl (begins.head?_ne (c := ']') (by decide))
  · rw [read]
    rfl

theorem value?_obj {ms : List (String × Json)} (begins : Begins s)
    (read : members? (value? levels) (s.length + 1) s = some (ms, rest)) :
    value? (levels + 1) ('{' :: ((newline depth).toList ++ s)) = some (.obj ms, rest) := by
  rw [value?, skipBlank_newline, begins.skipBlank_eq]
  split
  · exact absurd rfl (begins.head?_ne (c := '}') (by decide))
  · rw [read]
    rfl

/-- What begins with a digit or a sign is a number. -/
theorem value?_number {c : Char} (first : c.isDigit = true ∨ c = '-') (s : List Char) :
    value? (levels + 1) (c :: s) = number? (c :: s) := by
  have other {d : Char} (sort : d.isDigit = false ∧ d ≠ '-') (r : List Char) :
      c :: s ≠ d :: r := by
    rintro ⟨⟩
    rcases first with digit | sign
    · exact absurd digit (Bool.eq_false_iff.mp sort.1)
    · exact sort.2 sign
  rw [value?]
  · exact fun _ => other (d := 'n') (by decide) _
  · exact fun _ => other (d := 't') (by decide) _
  · exact fun _ => other (d := 'f') (by decide) _
  · exact other (d := '"') (by decide)
  · exact other (d := '[') (by decide)
  · exact other (d := '{') (by decide)

theorem value?_toString_int {n : Int} (low : -(2 ^ 63) ≤ n) (high : n < 2 ^ 64)
    (ends : EndsNumber rest) :
    value? (levels + 1) ((toString n).toList ++ rest) = some (.int n, rest) := by
  obtain ⟨m, ⟨digits, rfl⟩ | ⟨positive, digits, rfl⟩⟩ := Text.toList_toString_int n
  · obtain ⟨c, s, first, digit⟩ := Text.exists_head_toDigits m
    have read := number?_toDigits (n := m) (by omega) ends
    rw [digits, first, List.cons_append, value?_number (.inl digit), ← List.cons_append, ← first,
      read]
  · rw [digits, List.cons_append, value?_number (.inr rfl), number?_minus positive (by omega) ends]

/-- An array is read as what was written, if its elements are. -/
theorem Reads.arr {e : Json} {es : List Json} (all : ∀ x ∈ e :: es, x.IsExact)
    (reads : ∀ x ∈ e :: es, Reads (value? levels) (depth + 1) x) :
    Reads (value? (levels + 1)) depth (.arr (e :: es)) := by
  intro rest _
  have begins := (begins_prettyAt (all e List.mem_cons_self) (depth + 1)).rows (depth + 1)
    (elementText (depth + 1)) es
  have enough := length_le_rows (depth + 1) (elementText (depth + 1)) e es
  rw [toList_prettyAt_arr]
  simp only [List.cons_append, List.append_assoc, List.nil_append]
  refine value?_arr (begins.append _) (elements?_rows all reads ?_ depth)
  rw [List.length_append]
  omega

/-- An object is read as what was written, if its members are. -/
theorem Reads.obj {m : String × Json} {ms : List (String × Json)}
    (all : ∀ x ∈ m :: ms, x.2.IsExact)
    (reads : ∀ x ∈ m :: ms, Reads (value? levels) (depth + 1) x.2) :
    Reads (value? (levels + 1)) depth (.obj (m :: ms)) := by
  intro rest _
  have begins := (begins_memberText (depth + 1) m).rows (depth + 1) (memberText (depth + 1)) ms
  have enough := length_le_rows (depth + 1) (memberText (depth + 1)) m ms
  rw [toList_prettyAt_obj]
  simp only [List.cons_append, List.append_assoc, List.nil_append]
  refine value?_obj (begins.append _) (members?_rows all reads ?_ depth)
  rw [List.length_append]
  omega

/-- **A value is read as what was written**, if it nests no deeper than there are steps; it nests
less deep than its text is long. -/
theorem reads_value? {v : Json} (told : v.IsExact)
    (enough : (prettyAt depth v).toList.length ≤ levels) :
    Reads (value? (levels + 1)) depth v := by
  induction told generalizing levels depth with
  | null => exact fun rest _ => by rw [prettyAt]; rfl
  | bool b => cases b <;> exact fun rest _ => by rw [prettyAt]; rfl
  | int low high => exact fun rest ends => by rw [prettyAt, value?_toString_int low high ends]
  | str text =>
    intro rest _
    obtain ⟨body, quotes, read⟩ := string?_quoted text rest
    rw [prettyAt, quotes, value?, read]
    rfl
  | @arr elements all ih => cases elements with
    | nil => exact fun rest _ => by rw [prettyAt]; rfl
    | cons e es =>
      rw [toList_prettyAt_arr] at enough
      simp only [List.length_cons, List.length_append] at enough
      obtain ⟨levels, rfl⟩ : ∃ k, levels = k + 1 := ⟨levels - 1, by omega⟩
      refine Reads.arr all fun x there => ih x there ?_
      have short := length_piece_le_rows (depth + 1) (elementText (depth + 1)) e es there
      rw [elementText] at short
      omega
  | @obj members all ih => cases members with
    | nil => exact fun rest _ => by rw [prettyAt]; rfl
    | cons m ms =>
      rw [toList_prettyAt_obj] at enough
      simp only [List.length_cons, List.length_append] at enough
      obtain ⟨levels, rfl⟩ : ∃ k, levels = k + 1 := ⟨levels - 1, by omega⟩
      refine Reads.obj all fun x there => ih x there ?_
      have short := length_piece_le_rows (depth + 1) (memberText (depth + 1)) m ms there
      simp only [memberText, elementText, List.length_append, List.length_cons] at short
      omega

end

/-- **Reading what was written gives it back**, with blank space behind it or without. -/
theorem parse?_pretty {v : Json} (told : v.IsExact) {after : String}
    (blank : ∀ c ∈ after.toList, c = ' ' ∨ c = '\n') : parse? (v.pretty ++ after) = some v := by
  have begins : Begins (v.pretty.toList ++ after.toList) := (begins_prettyAt told 0).append _
  have skipped : skipBlank after.toList = [] := by
    refine List.dropWhile_eq_nil_iff.mpr fun c there => ?_
    rcases blank c there with rfl | rfl <;> rfl
  have ends : EndsNumber after.toList := fun c first => by
    rcases blank c (List.mem_of_mem_head? first) with rfl | rfl <;> decide
  have enough : (prettyAt 0 v).toList.length ≤ (v.pretty ++ after).length := by
    rw [pretty, String.length_append, String.length_toList]
    exact Nat.le_add_right _ _
  have read : value? ((v.pretty ++ after).length + 1) (v.pretty.toList ++ after.toList)
      = some (v, after.toList) := reads_value? told enough _ ends
  rw [parse?, String.toList_append, begins.skipBlank_eq, read]
  simp [skipped]

end NestedSession.Json
