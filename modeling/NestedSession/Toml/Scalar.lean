import NestedSession.Toml.Strings
import NestedSession.Toml.Tree

/-!
# Toml/Scalar — numbers, truth values, dates and times

A scalar that is not a string is one word.  `ofWord?` says what a word is: the forms do not
overlap, so the order in which they are tried does not matter.
-/

namespace NestedSession.Toml

/-- A character that may belong to a word. -/
def isWordChar (c : Char) : Bool := !"=,[]\x7b\x7d \t#\r\n".toList.contains c

/-! ## Numbers -/

/-- The value of a digit of any base. -/
def digitValue (c : Char) : Nat := (hexDigit? c).getD 0

/-- The number that digits write in a base. -/
def numberOf (base : Nat) (digits : List Char) : Nat :=
  digits.foldl (fun n c => base * n + digitValue c) 0

/-- A sign, if there is one, and the rest of a word. -/
def sign : List Char → Bool × List Char
  | '-' :: r => (true, r)
  | '+' :: r => (false, r)
  | r => (false, r)

/-- **Leave out the underscores of a number.**  Each must stand between two digits, but what follows
the last one is looked at only where it begins, and one may stand behind the sign. -/
def withoutUnderscores? (isDigit : Char → Bool) (word : List Char) : Option (List Char) :=
  let parts := word.splitOn '_'
  let opens (part : List Char) : Bool := part.head?.any isDigit
  let closes (part : List Char) : Bool := part.length = 1 || part.getLast?.any isDigit
  if (parts.drop 1).all opens && parts.dropLast.all closes then some parts.flatten else none

/-- A whole number, if some format of at most 128 bits holds it. -/
def ofInteger (n : Int) : Tree :=
  if -(Nat.pow 2 127 : Int) ≤ n && n < Nat.pow 2 128 then .integer n else .outOfRange

/-- The number that a word of digits writes; a word with anything else in it writes a number that
does not fit anywhere. -/
def ofDigits (base : Nat) (negative : Bool) (digits : List Char) : Tree :=
  if !digits.isEmpty && digits.all fun c => (hexDigit? c).any (· < base) then
    let n : Int := numberOf base digits
    ofInteger (if negative then -n else n)
  else .outOfRange

/-- A digit of base ten or sixteen. -/
def isAnyDigit (c : Char) : Bool := (hexDigit? c).isSome

/-- A number in a base other than ten, behind its mark.  It may lack its digits, and then fits
nowhere. -/
def based? (base : Nat) (digits : List Char) : Option Tree :=
  if digits.all fun c => c = '_' || (hexDigit? c).any (· < base) then
    if digits.isEmpty then some .outOfRange
    else (withoutUnderscores? isAnyDigit digits).map (ofDigits base false)
  else none

/-- A number in base ten under its sign: it does not start with an idle zero, and has nothing but
digits up to its first underscore. -/
def decimal? (word : List Char) : Option Tree :=
  let (negative, body) := sign word
  let digits := body.takeWhile Char.isDigit
  let rest := body.dropWhile Char.isDigit
  if body = ['0'] then some (.integer 0)
  else if body.head? = some '0' || (digits.isEmpty && rest.isEmpty) then none
  else if rest.isEmpty then some (ofDigits 10 negative digits)
  else if rest.head? = some '_' && !rest.any fun c => c = '.' || c = 'e' || c = 'E' then
    (withoutUnderscores? isAnyDigit word).map fun word => ofDigits 10 negative (sign word).2
  else none

/-- **A whole number**: in base 16, 8 or 2 behind a mark, or in decimal under a sign. -/
def integer? : List Char → Option Tree
  | '0' :: 'x' :: r => based? 16 r
  | '0' :: 'o' :: r => based? 8 r
  | '0' :: 'b' :: r => based? 2 r
  | word => decimal? word

/-- A number with a fraction or an exponent, unless it is too large for the format. -/
def ofFloat (x : Binary64) : Tree := if x.isInfinite then .outOfRange else .float x

/-- Decimal digits that do not start with an idle zero. -/
def isWhole (digits : List Char) : Bool :=
  !digits.isEmpty && digits.all Char.isDigit && (digits.head? ≠ some '0' || digits.length = 1)

/-- Decimal digits. -/
def isDigits (digits : List Char) : Bool := !digits.isEmpty && digits.all Char.isDigit

/-- **A number with a fraction or an exponent**, or one of the names of no such number. -/
def float? (word : List Char) : Option Tree := do
  let (negative, body) := sign word
  if body = ['i', 'n', 'f'] then return .float (.infinite negative)
  if body = ['n', 'a', 'n'] then return .float .notANumber
  let body := (sign (← withoutUnderscores? Char.isDigit word)).2
  let isMark (c : Char) : Bool := c = 'e' || c = 'E'
  let mantissa := body.takeWhile (!isMark ·)
  let power := body.dropWhile (!isMark ·)
  let whole := mantissa.takeWhile (· ≠ '.')
  let point := mantissa.dropWhile (· ≠ '.')
  let fraction := point.drop 1
  let (down, exponent) := sign (power.drop 1)
  if (point.isEmpty && power.isEmpty) || !isWhole whole
      || !(point.isEmpty || isDigits fraction) || !(power.isEmpty || isDigits exponent) then none
  else
    let shift : Int := numberOf 10 exponent
    return ofFloat (.ofDecimal negative (numberOf 10 (whole ++ fraction))
      ((if down then -shift else shift) - fraction.length))

/-! ## Dates and times -/

/-- A number of `n` decimal digits, and what follows it. -/
def fixed? (n : Nat) (s : List Char) : Option (Nat × List Char) :=
  let digits := s.take n
  if digits.length = n && digits.all Char.isDigit then some (numberOf 10 digits, s.drop n)
  else none

/-- The days of a month. -/
def daysIn (year month : Nat) : Nat :=
  if month = 2 then
    if year % 4 = 0 && (year % 100 ≠ 0 || year % 400 = 0) then 29 else 28
  else if month = 4 || month = 6 || month = 9 || month = 11 then 30
  else 31

/-- What follows a date. -/
def afterDate? (s : List Char) : Option (List Char) := do
  let (year, s) ← fixed? 4 s
  let '-' :: s := s | none
  let (month, s) ← fixed? 2 s
  let '-' :: s := s | none
  let (day, s) ← fixed? 2 s
  if 1 ≤ month && month ≤ 12 && 1 ≤ day && day ≤ daysIn year month then some s else none

/-- What follows hours and minutes. -/
def afterMinutes? (s : List Char) : Option (List Char) := do
  let (hour, s) ← fixed? 2 s
  let ':' :: s := s | none
  let (minute, s) ← fixed? 2 s
  if hour ≤ 23 && minute ≤ 59 then some s else none

/-- What follows a time: the seconds may be missing, and may have a fraction. -/
def afterTime? (s : List Char) : Option (List Char) := do
  match ← afterMinutes? s with
  | ':' :: s =>
    let (second, s) ← fixed? 2 s
    if second ≤ 60 then
      match s with
      | '.' :: r =>
        if (r.takeWhile Char.isDigit).isEmpty then none else some (r.dropWhile Char.isDigit)
      | r => some r
    else none
  | s => some s

/-- Whether a distance from universal time stands here, or nothing. -/
def isOffset : List Char → Bool
  | [] => true
  | ['Z'] => true
  | ['z'] => true
  | '+' :: r => afterMinutes? r == some []
  | '-' :: r => afterMinutes? r == some []
  | _ => false

/-- Whether a word is a date. -/
def isDate (word : List Char) : Bool := afterDate? word == some []

/-- **A date, a time, or a date with a time** and perhaps its distance from universal time. -/
def isDateTime (word : List Char) : Bool :=
  if afterTime? word == some [] then true
  else match afterDate? word with
    | some [] => true
    | some (c :: r) =>
      (c = 'T' || c = 't' || c = ' ') && (afterTime? r).any isOffset
    | none => false

/-! ## Words -/

/-- **What a word is.** -/
def ofWord? (word : List Char) : Option Tree :=
  if word = ['t', 'r', 'u', 'e'] then some (.boolean true)
  else if word = ['f', 'a', 'l', 's', 'e'] then some (.boolean false)
  else if isDateTime word then some .dateTime
  else (integer? word).or (float? word)

/-- Read a word; a date takes the time after a space with it. -/
def word? (s : List Char) : Option (Tree × List Char) :=
  let word := s.takeWhile isWordChar
  match s.dropWhile isWordChar with
  | ' ' :: c :: r =>
    if isDate word && c.isDigit then
      let time := (c :: r).takeWhile isWordChar
      (ofWord? (word ++ ' ' :: time)).map (·, (c :: r).dropWhile isWordChar)
    else (ofWord? word).map (·, ' ' :: c :: r)
  | rest => (ofWord? word).map (·, rest)

/-- **Read a scalar.** -/
def scalar? (s : List Char) : Option (Tree × List Char) :=
  match s with
  | '"' :: _ | '\'' :: _ => (string? s).map fun (t, r) => (.text t, r)
  | _ => word? s

end NestedSession.Toml
