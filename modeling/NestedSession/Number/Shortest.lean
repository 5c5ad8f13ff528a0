import NestedSession.Number.Binary64

/-!
# Number/Shortest — the shortest decimal that reads back

Every number of the binary format is the nearest one for a whole interval of decimals.  Of those
with the fewest digits, `shortest` takes the one nearest to the number; between two that are equally
near, a `Tie` decides.  `positional` writes it without an exponent and with a digit on both sides
of the point, `compact` with an exponent where that is shorter to read.
-/

namespace NestedSession.Binary64

/-- Which of two equally near decimals is taken. -/
inductive Tie where
  /-- The larger one. -/
  | up
  /-- The one with the even last digit. -/
  | toEven
  deriving DecidableEq, Repr, Inhabited

/-- Whether a tie between `low` and `low + 1` goes to `low`. -/
def Tie.keepsLow (tie : Tie) (low : Nat) : Bool :=
  match tie with
  | up => false
  | toEven => low % 2 == 0

/-- Four times the number and its interval: lower end, number, upper end, all over `2 ^ (2 - e)`.
The lower half-gap of a power of two is half as wide. -/
def interval (m : Nat) (e : Int) : Nat × Nat × Nat :=
  let below := if m = Nat.pow 2 52 ∧ e > minExponent then 1 else 2
  (4 * m - below, 4 * m, 4 * m + 2)

/-- Compare `a * 10 ^ k` with `b * 2 ^ e`. -/
def compareAt (a : Nat) (k : Int) (b : Nat) (e : Int) : Ordering :=
  compare (a * Nat.pow 10 k.toNat * Nat.pow 2 (-e).toNat)
    (b * Nat.pow 2 e.toNat * Nat.pow 10 (-k).toNat)

/-- The whole part of `b * 2 ^ e / 10 ^ k`. -/
def floorAt (b : Nat) (e k : Int) : Nat :=
  (b * Nat.pow 2 e.toNat * Nat.pow 10 (-k).toNat) / (Nat.pow 10 k.toNat * Nat.pow 2 (-e).toNat)

/-- Whether `a * 10 ^ k` rounds to `m * 2 ^ e`. -/
def roundsTo (m : Nat) (e : Int) (a : Nat) (k : Int) : Bool :=
  let (low, _, high) := interval m e
  let ends := m % 2 == 0
  let l := compareAt a k low (e - 2)
  let h := compareAt a k high (e - 2)
  (l == .gt || (ends && l == .eq)) && (h == .lt || (ends && h == .eq))

/-- The candidate on the grid of `10 ^ k`: the nearer of the number's two neighbours that rounds
to it. -/
def onGrid (tie : Tie) (m : Nat) (e k : Int) : Option Nat :=
  let low := floorAt m e k
  let nearerLow := match compareAt (2 * low + 1) k (2 * m) e with
    | .gt => true
    | .eq => tie.keepsLow low
    | .lt => false
  match roundsTo m e low k && low != 0, roundsTo m e (low + 1) k with
  | true, true => some (if nearerLow then low else low + 1)
  | true, false => some low
  | false, true => some (low + 1)
  | false, false => none

/-- The first of the grids `10 ^ k`, `10 ^ (k - 1)`, … that holds a candidate. -/
def scan (tie : Tie) (m : Nat) (e : Int) : Nat → Int → Nat × Int
  | 0, k => (floorAt m e k, k)
  | fuel + 1, k => match onGrid tie m e k with
    | some n => (n, k)
    | none => scan tie m e fuel (k - 1)

/-- **The shortest decimal** `(n, k)`, meaning `n * 10 ^ k`, that rounds to `m * 2 ^ e`. -/
def shortest (tie : Tie) (m : Nat) (e : Int) : Nat × Int :=
  if m = 0 then (0, 0)
  else
    let top : Int := (((m.log2 : Int) + e) * 30103).fdiv 100000 + 1
    scan tie m e 25 top

/-- A decimal without an exponent, and with a digit on both sides of the point. -/
def positionalText (n : Nat) (k : Int) : String :=
  let digits := Nat.toDigits 10 n
  if 0 ≤ k then String.ofList (digits ++ List.replicate k.toNat '0') ++ ".0"
  else
    let places := (-k).toNat
    let padded := List.replicate (places + 1 - digits.length) '0' ++ digits
    let whole := padded.length - places
    String.ofList (padded.take whole) ++ "." ++ String.ofList (padded.drop whole)

/-- A decimal with an exponent: one digit, a point if more follow, and the sign of the exponent. -/
def scientificText (n : Nat) (k : Int) : String :=
  let digits := Nat.toDigits 10 n
  let exponent := k + (digits.length : Int) - 1
  let fraction := if digits.length ≤ 1 then "" else "." ++ String.ofList (digits.drop 1)
  String.ofList (digits.take 1) ++ fraction ++ "e" ++ (if exponent < 0 then "-" else "+")
    ++ toString exponent.natAbs

/-- A number in decimals, its digits written as `write` says. -/
def textWith (tie : Tie) (write : Nat → Int → String) : Binary64 → String
  | notANumber => "NaN"
  | infinite negative => if negative then "-inf" else "inf"
  | finite negative m e =>
    let (n, k) := shortest tie m e
    (if negative then "-" else "") ++ write n k

/-- **A number in decimals without an exponent.** -/
def positional : Binary64 → String := textWith .up positionalText

/-- **A number in decimals**, with an exponent below -5 and above 15. -/
def compact : Binary64 → String :=
  textWith .toEven fun n k =>
    let exponent := k + ((Nat.toDigits 10 n).length : Int) - 1
    if -5 ≤ exponent ∧ exponent ≤ 15 then positionalText n k else scientificText n k

end NestedSession.Binary64
