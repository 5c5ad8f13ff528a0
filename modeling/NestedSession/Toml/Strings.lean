/-!
# Toml/Strings — the four forms of a TOML string

A string stands in one or three quotes of either kind.  Between double quotes a backslash starts an
escape (`escaped?`); between single quotes nothing does.  In three quotes a string may run over
lines, and the line end right after the opening quotes does not belong to it.

Each reader takes what was read so far, newest first, and returns the text with the characters
after the closing quotes.
-/

namespace NestedSession.Toml

/-- A character that may stand for itself: a tab, or no control. -/
def isPlain (c : Char) : Bool := c = '\t' || (0x20 ≤ c.toNat && c.toNat ≠ 0x7F)

/-- The value of a hexadecimal digit. -/
def hexDigit? (c : Char) : Option Nat :=
  if c.isDigit then some (c.toNat - 48)
  else if 'a' ≤ c && c ≤ 'f' then some (c.toNat - 87)
  else if 'A' ≤ c && c ≤ 'F' then some (c.toNat - 55)
  else none

/-- The character of hexadecimal digits, unless there is none of that number. -/
def charOfHex? (digits : List Char) : Option Char := do
  let values ← digits.mapM hexDigit?
  let n := values.foldl (fun n d => 16 * n + d) 0
  if n.isValidChar then some (Char.ofNat n) else none

/-- **The character of an escape**, and what follows it. -/
def escaped? : List Char → Option (Char × List Char)
  | 'b' :: r => some ('\x08', r)
  | 't' :: r => some ('\t', r)
  | 'n' :: r => some ('\n', r)
  | 'f' :: r => some ('\x0c', r)
  | 'r' :: r => some ('\r', r)
  | 'e' :: r => some ('\x1b', r)
  | '"' :: r => some ('"', r)
  | '\\' :: r => some ('\\', r)
  | 'x' :: a :: b :: r => (charOfHex? [a, b]).map (·, r)
  | 'u' :: a :: b :: c :: d :: r => (charOfHex? [a, b, c, d]).map (·, r)
  | 'U' :: a :: b :: c :: d :: e :: f :: g :: h :: r =>
    (charOfHex? [a, b, c, d, e, f, g, h]).map (·, r)
  | _ => none

theorem length_escaped? {s r : List Char} {c : Char} (h : escaped? s = some (c, r)) :
    r.length < s.length := by
  unfold escaped? at h
  split at h <;> simp only [Option.map_eq_some_iff, Option.some.injEq, Prod.mk.injEq,
    reduceCtorEq] at h
  all_goals
    obtain ⟨_, _, _, rfl⟩ := h
    simp only [List.length_cons]
    omega

/-- A text in single quotes on one line. -/
def literal (acc : List Char) : List Char → Option (String × List Char)
  | [] => none
  | c :: r =>
    if c = '\'' then some (String.ofList acc.reverse, r)
    else if isPlain c then literal (c :: acc) r
    else none

/-- A text in double quotes on one line. -/
def basic (acc : List Char) (s : List Char) : Option (String × List Char) :=
  match s with
  | [] => none
  | c :: r =>
    if c = '"' then some (String.ofList acc.reverse, r)
    else if c = '\\' then
      match _h : escaped? r with
      | some (e, r') => basic (e :: acc) r'
      | none => none
    else if isPlain c then basic (c :: acc) r
    else none
  termination_by s.length
  decreasing_by
    all_goals simp only [List.length_cons]
    · have := length_escaped? ‹escaped? r = _›; omega
    · omega

/-- Up to two quotes may stand before the three that close a text. -/
def closing (quote : Char) (acc : List Char) : List Char → String × List Char
  | a :: b :: r =>
    if a = quote then
      if b = quote then (String.ofList (b :: a :: acc).reverse, r)
      else (String.ofList (a :: acc).reverse, b :: r)
    else (String.ofList acc.reverse, a :: b :: r)
  | [a] => if a = quote then (String.ofList (a :: acc).reverse, [])
    else (String.ofList acc.reverse, [a])
  | [] => (String.ofList acc.reverse, [])

/-- Whether three quotes stand here. -/
def threeQuotes (quote : Char) (s : List Char) : Bool := s.take 3 == [quote, quote, quote]

/-- A text in three single quotes. -/
def literalLines (acc : List Char) (s : List Char) : Option (String × List Char) :=
  match s with
  | [] => none
  | c :: r =>
    if threeQuotes '\'' (c :: r) then some (closing '\'' acc (r.drop 2))
    else if c = '\r' then
      match r with
      | '\n' :: r' => literalLines ('\n' :: '\r' :: acc) r'
      | _ => none
    else if c = '\n' || isPlain c then literalLines (c :: acc) r
    else none

/-- What follows the blanks and line ends that a backslash at the end of a line joins over. -/
def afterJoin : List Char → List Char
  | ' ' :: r => afterJoin r
  | '\t' :: r => afterJoin r
  | '\n' :: r => afterJoin r
  | '\r' :: '\n' :: r => afterJoin r
  | r => r

theorem length_afterJoin_le (s : List Char) : (afterJoin s).length ≤ s.length := by
  fun_induction afterJoin s <;> grind

/-- Whether only blanks stand before the end of the line. -/
def endsLine (s : List Char) : Bool :=
  match s.dropWhile (fun c => c = ' ' || c = '\t') with
  | '\n' :: _ => true
  | '\r' :: '\n' :: _ => true
  | _ => false

/-- A text in three double quotes. -/
def basicLines (acc : List Char) (s : List Char) : Option (String × List Char) :=
  match s with
  | [] => none
  | c :: r =>
    if threeQuotes '"' (c :: r) then some (closing '"' acc (r.drop 2))
    else if c = '\\' then
      if endsLine r then basicLines acc (afterJoin r)
      else match _h : escaped? r with
        | some (e, r') => basicLines (e :: acc) r'
        | none => none
    else if c = '\r' then
      match r with
      | '\n' :: r' => basicLines ('\n' :: '\r' :: acc) r'
      | _ => none
    else if c = '\n' || isPlain c then basicLines (c :: acc) r
    else none
  termination_by s.length
  decreasing_by
    all_goals simp only [List.length_cons]
    · have := length_afterJoin_le r; omega
    · have := length_escaped? ‹escaped? r = _›; omega
    · omega
    · omega

/-- The text after opening quotes, without the line end right after them. -/
def afterOpening : List Char → List Char
  | '\n' :: r => r
  | '\r' :: '\n' :: r => r
  | r => r

/-- **Read a string of any form.** -/
def string? : List Char → Option (String × List Char)
  | '"' :: '"' :: '"' :: r => basicLines [] (afterOpening r)
  | '\'' :: '\'' :: '\'' :: r => literalLines [] (afterOpening r)
  | '"' :: r => basic [] r
  | '\'' :: r => literal [] r
  | _ => none

end NestedSession.Toml
