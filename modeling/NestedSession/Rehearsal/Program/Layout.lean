import NestedSession.Number.Binary64

/-!
# Rehearsal/Program/Layout — texts and numbers in fields

A directive says how a value fills a field: its width, the side it stands at, how many digits it
has.  Fractions are laid out exactly; a tie goes to the even digit.
-/

namespace NestedSession.Rehearsal

/-- How a value fills a field. -/
structure Directive where
  left : Bool := false
  plus : Bool := false
  space : Bool := false
  zero : Bool := false
  alternate : Bool := false
  width : Nat := 0
  precision : Option Nat := none

/-- A number that is laid out: a fraction under a sign, or none. -/
inductive Quantity where
  | ratio (negative : Bool) (n d : Nat)
  | infinite (negative : Bool)
  | notANumber (negative : Bool)

namespace Quantity

/-- The fraction that a number of the binary format is. -/
def ofBinary64 : Binary64 → Quantity
  | .notANumber => notANumber false
  | .infinite negative => infinite negative
  | .finite negative m e =>
    if 0 ≤ e then ratio negative (m * Nat.pow 2 e.toNat) 1
    else ratio negative m (Nat.pow 2 (-e).toNat)

end Quantity

namespace Directive

/-- The directive without any demands. -/
def usual : Directive := {}

/-- A directive with the flags that characters say. -/
def withFlags (d : Directive) (cs : List Char) : Directive :=
  { d with
    left := d.left || cs.contains '-'
    plus := cs.contains '+'
    space := cs.contains ' '
    zero := cs.contains '0'
    alternate := cs.contains '#' }

/-- Fill a field with what stands before the zeros and what stands behind them. -/
def fill (d : Directive) (zeros : Bool) (sign body : List Char) : List Char :=
  let missing := d.width - (sign.length + body.length)
  if d.left then sign ++ body ++ List.replicate missing ' '
  else if zeros then sign ++ List.replicate missing '0' ++ body
  else List.replicate missing ' ' ++ sign ++ body

/-- **A text in a field.** -/
def text (d : Directive) (cs : List Char) : List Char :=
  d.fill false [] (match d.precision with
    | some most => cs.take most
    | none => cs)

/-- The sign of a number. -/
def sign (d : Directive) (negative : Bool) : List Char :=
  if negative then ['-'] else if d.plus then ['+'] else if d.space then [' '] else []

/-- Digits with as many zeros before them as are asked for; a zero may have none. -/
def digits (d : Directive) (base n : Nat) : List Char :=
  let ds := if n = 0 && d.precision = some 0 then [] else Nat.toDigits base n
  List.replicate (d.precision.getD 1 - ds.length) '0' ++ ds

/-- **A whole number in a field.** -/
def integer (d : Directive) (n : Int) : List Char :=
  d.fill (d.zero && d.precision.isNone) (d.sign (n < 0)) (d.digits 10 n.natAbs)

/-- **A natural number in a field**, in a base that a letter says. -/
def natural (d : Directive) (kind : Char) (n : Nat) : List Char :=
  let zeros := d.zero && d.precision.isNone
  match kind with
  | 'o' =>
    let ds := d.digits 8 n
    let ds := if d.alternate && ds.head? != some '0' then '0' :: ds else ds
    d.fill zeros [] ds
  | 'x' => d.fill zeros (if d.alternate && n != 0 then ['0', 'x'] else []) (d.digits 16 n)
  | 'X' =>
    d.fill zeros (if d.alternate && n != 0 then ['0', 'X'] else [])
      ((d.digits 16 n).map Char.toUpper)
  | _ => d.fill zeros [] (d.digits 10 n)

/-- The digits of a fraction with so many places. -/
def places (n d count : Nat) : List Char × List Char :=
  let whole := Binary64.roundDiv (n * Nat.pow 10 count) d
  let ds := Nat.toDigits 10 whole
  let ds := List.replicate (count + 1 - ds.length) '0' ++ ds
  (ds.take (ds.length - count), ds.drop (ds.length - count))

/-- Digits around a point, which may stand alone. -/
def pointed (alternate : Bool) (whole fraction : List Char) : List Char :=
  if fraction.isEmpty && !alternate then whole else whole ++ '.' :: fraction

/-- The power of ten that a positive fraction has as its first digit. -/
def magnitude (n d : Nat) : Int :=
  let below (k : Int) : Bool :=
    if 0 ≤ k then d * Nat.pow 10 k.toNat ≤ n else d ≤ n * Nat.pow 10 (-k).toNat
  let guess : Int := (Nat.toDigits 10 n).length - (Nat.toDigits 10 d).length
  if below guess then guess else guess - 1

/-- The first digit and the places of a fraction, and its power of ten. -/
def scientific (n d count : Nat) : List Char × List Char × Int :=
  if n = 0 then (['0'], List.replicate count '0', 0)
  else
    let k := magnitude n d
    let at_ (k : Int) : List Char × List Char :=
      if 0 ≤ k then places n (d * Nat.pow 10 k.toNat) count
      else places (n * Nat.pow 10 (-k).toNat) d count
    match at_ k with
    | ([c], fraction) => ([c], fraction, k)
    | _ => let (whole, fraction) := at_ (k + 1); (whole, fraction, k + 1)

/-- A power of ten behind a number. -/
def exponent (k : Int) : List Char :=
  let ds := Nat.toDigits 10 k.natAbs
  ['e', if k < 0 then '-' else '+'] ++ List.replicate (2 - ds.length) '0' ++ ds

/-- Places without the zeros at their end. -/
def trimmed (keep : Bool) (fraction : List Char) : List Char :=
  if keep then fraction else (fraction.reverse.dropWhile (· == '0')).reverse

/-- The digits of a fraction in the manner that a letter says. -/
def fraction (d : Directive) (kind : Char) (n m : Nat) : List Char :=
  let count := d.precision.getD 6
  match kind with
  | 'f' => let (whole, fraction) := places n m count; pointed d.alternate whole fraction
  | 'e' =>
    let (whole, fraction, k) := scientific n m count
    pointed d.alternate whole fraction ++ exponent k
  | _ =>
    let count := max count 1
    let (whole, fraction, k) := scientific n m (count - 1)
    if -4 ≤ k && k < (count : Int) then
      let (whole, fraction) := places n m ((count : Int) - 1 - k).toNat
      pointed d.alternate whole (trimmed d.alternate fraction)
    else pointed d.alternate whole (trimmed d.alternate fraction) ++ exponent k

/-- **A number in a field**, in the manner that a letter says. -/
def real (d : Directive) (kind : Char) (x : Quantity) : List Char :=
  let shown (cs : List Char) : List Char := if kind.isUpper then cs.map Char.toUpper else cs
  match x with
  | .ratio negative n m => d.fill d.zero (d.sign negative) (shown (d.fraction kind.toLower n m))
  | .infinite negative => d.fill false (d.sign negative) (shown ['i', 'n', 'f'])
  | .notANumber negative => d.fill false (d.sign negative) (shown ['n', 'a', 'n'])

end Directive

end NestedSession.Rehearsal
