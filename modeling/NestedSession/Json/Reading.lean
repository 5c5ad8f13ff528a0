import NestedSession.Json.Basic
import NestedSession.Text.Utf8

/-!
# Json/Reading — a value from its text

Values nest at most as deep as the text is long, so reading them recurses on a count that starts
there.  A number is whole if it is written without a point or an exponent and 64 bits hold it.
-/

namespace NestedSession.Json

/-- Blank space between the parts of a value. -/
def skipBlank (s : List Char) : List Char :=
  s.dropWhile fun c => c = ' ' || c = '\t' || c = '\n' || c = '\r'

/-! ## Numbers -/

/-- The largest power of ten that a number is scaled by in one step. -/
def largestPower : Nat := 308

/-- A power of ten, rounded. -/
def powerOfTen (k : Nat) : Binary64 := .ofRatio false (Nat.pow 10 k) 1

/-- A number times a power of ten that the format can hold. -/
def scaledUp (x : Binary64) (k : Nat) : Option Binary64 :=
  match powerOfTen k with
  | .finite _ m e =>
    let y := if 0 ≤ e then x.timesRatio (m * Nat.pow 2 e.toNat) 1
      else x.timesRatio m (Nat.pow 2 (-e).toNat)
    if y.isInfinite then none else some y
  | _ => none

/-- A number divided by a power of ten that the format can hold. -/
def scaledDown (x : Binary64) (k : Nat) : Binary64 :=
  match powerOfTen k with
  | .finite _ m e =>
    if 0 ≤ e then x.timesRatio 1 (m * Nat.pow 2 e.toNat)
    else x.timesRatio (Nat.pow 2 (-e).toNat) m
  | _ => x

/-- **Digits times a power of ten**: the digits are rounded, then scaled, in steps if need be. -/
def scaled (negative : Bool) (digits : Nat) (exponent : Int) : Option Binary64 :=
  let start := Binary64.ofRatio negative digits 1
  if start.isZero then some start
  else if 0 ≤ exponent then
    if exponent.toNat ≤ largestPower then scaledUp start exponent.toNat else none
  else
    let down := (-exponent).toNat
    let steps := min (down / (largestPower + 1)) 3
    let lowered := steps.repeat (scaledDown · largestPower) start
    if lowered.isZero then some lowered
    else some (scaledDown lowered (down - steps * largestPower))

/-- Take digits into a number as long as 64 bits hold it; the digits that are left over. -/
def gather : Nat → List Char → Nat × List Char
  | n, [] => (n, [])
  | n, c :: cs =>
    let next := 10 * n + (c.toNat - 48)
    if next < UInt64.size then gather next cs else (n, c :: cs)

/-- The exponent of a number, zero if there is none. -/
def exponent? (s : List Char) : Option (Int × List Char) :=
  match s with
  | c :: r =>
    if c = 'e' || c = 'E' then
      let (down, r) := match r with
        | '-' :: r => (true, r)
        | '+' :: r => (false, r)
        | r => (false, r)
      let digits := r.takeWhile Char.isDigit
      if digits.isEmpty then none
      else
        let n : Int := (gather 0 digits).1
        some (if down then -n else n, r.dropWhile Char.isDigit)
    else some (0, s)
  | [] => some (0, [])

/-- **A number.** -/
def number? (s : List Char) : Option (Json × List Char) := do
  let (negative, s) := match s with
    | '-' :: r => (true, r)
    | s => (false, s)
  let whole := s.takeWhile Char.isDigit
  let r := s.dropWhile Char.isDigit
  if whole.isEmpty || (whole.head? = some '0' && whole.length ≠ 1) then none
  let (fraction, r) ← match r with
    | '.' :: r =>
      let digits := r.takeWhile Char.isDigit
      if digits.isEmpty then none else some (digits, r.dropWhile Char.isDigit)
    | r => some ([], r)
  let (shift, rest) ← exponent? r
  let (n, leftOver) := gather 0 whole
  let isPlain := fraction.isEmpty && rest.length = r.length
  if isPlain && leftOver.isEmpty && !negative then return (.int n, rest)
  if isPlain && leftOver.isEmpty && 0 < n && n ≤ Nat.pow 2 63 then return (.int (-n), rest)
  let (n, dropped) := if leftOver.isEmpty then gather n fraction else (n, fraction)
  let x ← scaled negative n (leftOver.length + shift - (fraction.length - dropped.length : Nat))
  return (.float x, rest)

/-! ## Strings -/

/-- The value of four hexadecimal digits. -/
def unit? (digits : List Char) : Option Nat :=
  digits.foldlM (fun n c =>
    if c.isDigit then some (16 * n + (c.toNat - 48))
    else if 'a' ≤ c && c ≤ 'f' then some (16 * n + (c.toNat - 87))
    else if 'A' ≤ c && c ≤ 'F' then some (16 * n + (c.toNat - 55))
    else none) 0

/-- The character of an escape, and what follows it.  One beyond the first plane takes two. -/
def escaped? : List Char → Option (Char × List Char)
  | 'u' :: a :: b :: c :: d :: '\\' :: 'u' :: e :: f :: g :: h :: r => do
    let high ← unit? [a, b, c, d]
    let low ← unit? [e, f, g, h]
    if 0xD800 ≤ high && high < 0xDC00 && 0xDC00 ≤ low && low < 0xE000 then
      some (Char.ofNat (0x10000 + (high - 0xD800) * 0x400 + (low - 0xDC00)), r)
    else if high.isValidChar then some (Char.ofNat high, '\\' :: 'u' :: e :: f :: g :: h :: r)
    else none
  | 'u' :: a :: b :: c :: d :: r => do
    let n ← unit? [a, b, c, d]
    if n.isValidChar then some (Char.ofNat n, r) else none
  | 'b' :: r => some ('\x08', r)
  | 'f' :: r => some ('\x0c', r)
  | 'n' :: r => some ('\n', r)
  | 'r' :: r => some ('\r', r)
  | 't' :: r => some ('\t', r)
  | c :: r => if c = '"' || c = '\\' || c = '/' then some (c, r) else none
  | [] => none

/-- The characters of a string up to its closing quote, after those before, newest first. -/
def string? : Nat → List Char → List Char → Option (String × List Char)
  | 0, _, _ => none
  | fuel + 1, before, s =>
    match s with
    | '"' :: r => some (String.ofList before.reverse, r)
    | '\\' :: r => do
      let (c, r) ← escaped? r
      string? fuel (c :: before) r
    | c :: r => if c.toNat < 0x20 then none else string? fuel (c :: before) r
    | [] => none

/-! ## Values -/

/-- The elements of an array up to its closing bracket. -/
def elements? (value : List Char → Option (Json × List Char)) :
    Nat → List Char → Option (List Json × List Char)
  | 0, _ => none
  | fuel + 1, s => do
    let (v, r) ← value (skipBlank s)
    match skipBlank r with
    | ']' :: r => some ([v], r)
    | ',' :: r =>
      let (vs, r) ← elements? value fuel r
      some (v :: vs, r)
    | _ => none

/-- The members of an object up to its closing brace. -/
def members? (value : List Char → Option (Json × List Char)) :
    Nat → List Char → Option (List (String × Json) × List Char)
  | 0, _ => none
  | fuel + 1, s => do
    let '"' :: r := skipBlank s | none
    let (key, r) ← string? (r.length + 1) [] r
    let ':' :: r := skipBlank r | none
    let (v, r) ← value (skipBlank r)
    match skipBlank r with
    | '}' :: r => some ([(key, v)], r)
    | ',' :: r =>
      let (ms, r) ← members? value fuel r
      some ((key, v) :: ms, r)
    | _ => none

/-- **A value**, nested at most so deep. -/
def value? : Nat → List Char → Option (Json × List Char)
  | 0, _ => none
  | depth + 1, s =>
    match s with
    | 'n' :: 'u' :: 'l' :: 'l' :: r => some (.null, r)
    | 't' :: 'r' :: 'u' :: 'e' :: r => some (.bool true, r)
    | 'f' :: 'a' :: 'l' :: 's' :: 'e' :: r => some (.bool false, r)
    | '"' :: r => (string? (r.length + 1) [] r).map fun (t, r) => (.str t, r)
    | '[' :: r =>
      match skipBlank r with
      | ']' :: r => some (.arr [], r)
      | r => (elements? (value? depth) (r.length + 1) r).map fun (vs, r) => (.arr vs, r)
    | '{' :: r =>
      match skipBlank r with
      | '}' :: r => some (.obj [], r)
      | r => (members? (value? depth) (r.length + 1) r).map fun (ms, r) => (.obj ms, r)
    | s => number? s

/-- **Read a text that is one value.** -/
def parse? (text : String) : Option Json := do
  let (v, r) ← value? (text.length + 1) (skipBlank text.toList)
  if (skipBlank r).isEmpty then some v else none

/-- The value of a member, null if there is none. -/
def member (name : String) : Json → Json
  | obj members => (members.lookup name).getD null
  | _ => null

end NestedSession.Json
