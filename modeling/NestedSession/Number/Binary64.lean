/-!
# Number/Binary64 — decimals rounded to 53 bits

A finite number is `m * 2 ^ e` with `m < 2 ^ 53` and `-1074 ≤ e`.  `ofDecimal` rounds any decimal
to the nearest such number, a tie to the even `m`, in whole numbers only.
-/

namespace NestedSession

/-- A number of the binary format with 53 significant bits. -/
inductive Binary64 where
  /-- No number at all. -/
  | notANumber
  /-- Beyond the largest number. -/
  | infinite (negative : Bool)
  /-- The number `m * 2 ^ e` under a sign. -/
  | finite (negative : Bool) (m : Nat) (e : Int)
  deriving DecidableEq, Repr, Inhabited

namespace Binary64

/-- The exponent of the smallest positive number. -/
def minExponent : Int := -1074

/-- The exponent of the largest numbers. -/
def maxExponent : Int := 971

/-- The quotient nearest to `n / d`, a tie to the even one. -/
def roundDiv (n d : Nat) : Nat :=
  let q := n / d
  let twice := 2 * (n % d)
  if twice < d ∨ (twice = d ∧ q % 2 = 0) then q else q + 1

/-- `n * 2 ^ e` over `d`, as a pair of whole numbers. -/
def scaled (n d : Nat) (e : Int) : Nat × Nat :=
  if 0 ≤ e then (n, d * Nat.pow 2 e.toNat) else (n * Nat.pow 2 (-e).toNat, d)

/-- The exponent at which `n / d` has 53 bits before the point, or the smallest one. -/
def exponentOf (n d : Nat) : Int :=
  let guess := (n.log2 : Int) - (d.log2 : Int) - 53
  let fits (e : Int) : Bool := let (p, q) := scaled n d e; p / q < Nat.pow 2 53
  let e := if fits guess then guess else if fits (guess + 1) then guess + 1 else guess + 2
  max e minExponent

/-- **The number nearest to `n / d`.** -/
def ofRatio (negative : Bool) (n d : Nat) : Binary64 :=
  if n = 0 then finite negative 0 minExponent
  else
    let e := exponentOf n d
    let (p, q) := scaled n d e
    let m := roundDiv p q
    let (m, e) := if m = Nat.pow 2 53 then (Nat.pow 2 52, e + 1) else (m, e)
    if e > maxExponent then infinite negative else finite negative m e

/-- **The number nearest to `digits * 10 ^ exponent`.**  Exponents far outside the format are not
computed. -/
def ofDecimal (negative : Bool) (digits : Nat) (exponent : Int) : Binary64 :=
  let size := (Nat.toDigits 10 digits).length + exponent
  if digits = 0 ∨ size < -400 then finite negative 0 minExponent
  else if size > 400 then infinite negative
  else if 0 ≤ exponent then ofRatio negative (digits * Nat.pow 10 exponent.toNat) 1
  else ofRatio negative digits (Nat.pow 10 (-exponent).toNat)

/-- **A number times or divided by another finite one**, given as a ratio, and rounded. -/
def timesRatio (x : Binary64) (n d : Nat) : Binary64 :=
  match x with
  | finite negative m e =>
    let (p, q) := if 0 ≤ e then (m * Nat.pow 2 e.toNat, 1) else (m, Nat.pow 2 (-e).toNat)
    ofRatio negative (p * n) (q * d)
  | other => other

/-- Whether a number is zero. -/
def isZero : Binary64 → Bool
  | finite _ m _ => m == 0
  | _ => false

/-- Whether a number is infinite. -/
def isInfinite : Binary64 → Bool
  | infinite _ => true
  | _ => false

end Binary64

end NestedSession
