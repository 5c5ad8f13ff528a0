import NestedSession.Rehearsal.Program.Lines
import NestedSession.Rehearsal.Program.Printing
import NestedSession.Rehearsal.Program.Regex.Reading

/-!
# Rehearsal/Program/Sums — programs that calculate

    seq expr
-/

namespace NestedSession.Rehearsal.Program

/-! ## Sequences -/

/-- A number as it was written: a decimal fraction with so many places. -/
structure Written where
  /-- The number times the power of ten of its places. -/
  units : Int
  places : Nat

/-- The number that a word is. -/
def written? (word : String) : Option Written :=
  let cs := word.toList.dropWhile Number.isSpace
  let (negative, cs) := match cs with
    | '-' :: rest => (true, rest)
    | '+' :: rest => (false, rest)
    | rest => (false, rest)
  let whole := cs.takeWhile Char.isDigit
  let behind := cs.drop whole.length
  let (fraction, rest) := match behind with
    | '.' :: rest =>
      let ds := rest.takeWhile Char.isDigit
      (ds, rest.drop ds.length)
    | rest => ([], rest)
  let n : Int := (Number.digits 10 (whole ++ fraction)).1
  let n := if negative then -n else n
  if whole.isEmpty && fraction.isEmpty then none
  else match rest with
    | [] => some ⟨n, fraction.length⟩
    | e :: rest =>
      if e != 'e' && e != 'E' then none
      else match Number.whole? (some 10) (String.ofList rest).toList with
        | none => none
        | some k =>
          let places := (fraction.length : Int) - k
          if places < 0 then some ⟨n * Nat.pow 10 places.natAbs, 0⟩ else some ⟨n, places.toNat⟩

/-- A number in units of a smaller power of ten. -/
def Written.scaled (w : Written) (places : Nat) : Int := w.units * Nat.pow 10 (places - w.places)

/-- Units as a decimal fraction. -/
def decimal (places : Nat) (n : Int) : String :=
  let ds := Nat.toDigits 10 n.natAbs
  let ds := List.replicate (places + 1 - ds.length) '0' ++ ds
  let whole := ds.take (ds.length - places)
  let fraction := if places = 0 then [] else '.' :: ds.drop (ds.length - places)
  String.ofList ((if n < 0 then ['-'] else []) ++ whole ++ fraction)

/-- A text with zeros behind its sign. -/
def zeroFilled (width : Nat) (t : String) : String :=
  let zeros := List.replicate (width - t.length) '0'
  match t.toList with
  | '-' :: ds => String.ofList ('-' :: zeros ++ ds)
  | ds => String.ofList (zeros ++ ds)

/-- How many numbers there are from one to another. -/
def stepsTo (first step last : Int) : Nat :=
  if 0 < step then if last < first then 0 else ((last - first) / step).toNat + 1
  else if first < last then 0 else ((first - last) / (-step)).toNat + 1

/-- Whether a word is a negative number, and no switch. -/
def isNegative (word : String) : Bool :=
  match word.toList with
  | '-' :: c :: _ => c.isDigit || c = '.'
  | _ => false

/-- **Write a sequence of numbers.** -/
def seq : Work Unit := do
  let d ← get
  -- Negative numbers are no switches.
  let given := d.call.arguments
  let ahead := given.takeWhile fun w => !isNegative w
  let guarded := if ahead.length < given.length && !ahead.contains "--" then
    ahead ++ "--" :: given.drop ahead.length else given
  set { d with call := { d.call with words := d.call.name :: guarded } }
  let s ← Work.switches
    { plain := "w", valued := "fs", inOrder := true
      long := [("equal-width", 'w', .nothing), ("format", 'f', .value),
        ("separator", 's', .value)] }
  let words := s.words.filter (· != "--")
  if words.isEmpty then Work.misuse "missing operand"
  if 3 < words.length then Work.misuse ("extra operand " ++ quoted (words.getD 3 ""))
  let numbers ← words.mapM fun word =>
    match written? word with
    | some w => pure w
    | none => Work.misuse ("invalid floating point argument: " ++ quoted word)
  let one : Written := ⟨1, 0⟩
  let (first, step, last) := match numbers with
    | [a, b, c] => (a, b, c)
    | [a, b] => (a, one, b)
    | _ => (one, one, numbers.headD one)
  if step.units = 0 then
    Work.misuse ("invalid Zero increment value: " ++ quoted (words.getD 1 ""))
  let places := max first.places step.places
  let all := max places last.places
  let a := first.scaled all
  let b := step.scaled all
  let count := stepsTo a b (last.scaled all)
  let values := (List.range count).map fun (i : Nat) => a + b * (i : Int)
  let plain (n : Int) : String := decimal places (n / Nat.pow 10 (all - places))
  let lastValue := a + b * ((count : Int) - 1)
  let width := max (plain a).length (plain lastValue).length
  let width := if s.has 'w' then max width (decimal places (last.scaled places)).length else 0
  let shows ← match s.get? 'f' with
    | none => pure fun n => zeroFilled width (plain n)
    | some format =>
      let head := format.toList.takeWhile (· != '%')
      let spec := format.toList.drop (head.length + 1)
      let (directive, behind, _) := Printing.readDirective spec ⟨[], [], [], false, none⟩
      match behind with
      | kind :: tail =>
        if "efgEFG".toList.contains kind then
          pure fun (n : Int) => String.ofList (head
            ++ directive.real kind (.ratio (n < 0) n.natAbs (Nat.pow 10 all)) ++ tail)
        else
          Work.fail ("format " ++ quoted format ++ " has unknown %" ++ String.singleton kind
            ++ " directive")
      | [] => Work.fail ("format " ++ quoted format ++ " has no % directive")
  if !values.isEmpty then
    Work.printLine (((s.get? 's').getD "\n").intercalate (values.map shows))

/-! ## Expressions -/

/-- A step of an expression: the words that are left, and the last one that was read. -/
abbrev Reckon (α : Type) : Type := StateT (List String × String) (Except String) α

namespace Reckon

/-- Take a word if it is one of some. -/
def takeOneOf (words : List String) : Reckon (Option String) := do
  match (← get).1 with
  | w :: rest =>
    if words.contains w then
      set (rest, w)
      pure (some w)
    else pure none
  | [] => pure none

/-- The whole number that a text is. -/
def integer? (t : String) : Option Int :=
  let natural? (ds : List Char) : Option Int :=
    if !ds.isEmpty && ds.all Char.isDigit then some (Number.digits 10 ds).1 else none
  match t.toList with
  | '-' :: ds => (natural? ds).map (-·)
  | ds => natural? ds

/-- Whether a text counts as nothing: it is empty, or zero. -/
def isNull (t : String) : Bool :=
  t.isEmpty || (integer? t = some 0)

/-- A number as a text. -/
def truth (b : Bool) : String := if b then "1" else "0"

/-- What an expression matches at the beginning of a text: the first group, or the length. -/
def matched (text pattern : String) : Except String String := do
  let r ← Regex.read ⟨false, false⟩ pattern.toList
  let cs := text.toList.toArray
  let hasGroup := pattern.toList.length != (pattern.toList.filter (· != '\\')).length
    && ("\\(".toList.isSuffixOf pattern.toList || (pattern.splitOn "\\(").length > 1)
  match Regex.matchAt cs r 0 with
  | some found =>
    .ok (if hasGroup then String.ofList (found.group cs 1) else toString (found.stop - found.start))
  | none => .ok (if hasGroup then "" else "0")

/-- Calculate with two texts. -/
def combine (sign a b : String) : Except String String :=
  match integer? a, integer? b with
  | some x, some y =>
    match sign with
    | "+" => .ok (toString (x + y))
    | "-" => .ok (toString (x - y))
    | "*" => .ok (toString (x * y))
    | "/" => if y = 0 then .error "division by zero" else .ok (toString (Int.tdiv x y))
    | _ => if y = 0 then .error "division by zero" else .ok (toString (Int.tmod x y))
  | _, _ => .error "non-integer argument"

/-- Compare two texts, as numbers if they are numbers. -/
def compared (sign a b : String) : String :=
  let ordering := match integer? a, integer? b with
    | some x, some y => compare x y
    | _, _ => compareOfLessAndEq a b
  truth <| match sign with
    | "=" | "==" => ordering = .eq
    | "!=" => ordering != .eq
    | "<" => ordering = .lt
    | "<=" => ordering != .gt
    | ">" => ordering = .gt
    | _ => ordering != .lt

/-- The place of the first character of a text that is one of some, from one on. -/
def placeOf (text chars : String) : Nat :=
  let n := text.toList.findIdx fun c => chars.toList.contains c
  if n < text.length then n + 1 else 0

/-- Any word. -/
def word : Reckon String := do
  let (words, last) ← get
  match words with
  | w :: rest =>
    set (rest, w)
    pure w
  | [] => throw ("syntax error: missing argument after " ++ quoted last)

mutual

/-- Values of which the first that is not null counts. -/
def either : Nat → Reckon String
  | 0 => throw "syntax error"
  | fuel + 1 => do
    eitherOn fuel (← both fuel)

/-- More of these values. -/
def eitherOn : Nat → String → Reckon String
  | 0, a => pure a
  | fuel + 1, a => do
    match ← takeOneOf ["|"] with
    | none => pure a
    | some _ =>
      let b ← both fuel
      eitherOn fuel (if !isNull a then a else if !isNull b then b else "0")

/-- Values that count only if none is null. -/
def both : Nat → Reckon String
  | 0 => throw "syntax error"
  | fuel + 1 => do
    bothOn fuel (← comparison fuel)

/-- More of these values. -/
def bothOn : Nat → String → Reckon String
  | 0, a => pure a
  | fuel + 1, a => do
    match ← takeOneOf ["&"] with
    | none => pure a
    | some _ =>
      let b ← comparison fuel
      bothOn fuel (if isNull a || isNull b then "0" else a)

/-- Comparisons. -/
def comparison : Nat → Reckon String
  | 0 => throw "syntax error"
  | fuel + 1 => do
    comparisonOn fuel (← total fuel)

/-- More comparisons. -/
def comparisonOn : Nat → String → Reckon String
  | 0, a => pure a
  | fuel + 1, a => do
    match ← takeOneOf ["<", "<=", "=", "==", "!=", ">=", ">"] with
    | none => pure a
    | some sign =>
      let b ← total fuel
      comparisonOn fuel (compared sign a b)

/-- Sums and differences. -/
def total : Nat → Reckon String
  | 0 => throw "syntax error"
  | fuel + 1 => do
    totalOn fuel (← product fuel)

/-- More sums and differences. -/
def totalOn : Nat → String → Reckon String
  | 0, a => pure a
  | fuel + 1, a => do
    match ← takeOneOf ["+", "-"] with
    | none => pure a
    | some sign =>
      let b ← product fuel
      totalOn fuel (← combine sign a b)

/-- Products and quotients. -/
def product : Nat → Reckon String
  | 0 => throw "syntax error"
  | fuel + 1 => do
    productOn fuel (← matching fuel)

/-- More products and quotients. -/
def productOn : Nat → String → Reckon String
  | 0, a => pure a
  | fuel + 1, a => do
    match ← takeOneOf ["*", "/", "%"] with
    | none => pure a
    | some sign =>
      let b ← matching fuel
      productOn fuel (← combine sign a b)

/-- Texts that are matched with expressions. -/
def matching : Nat → Reckon String
  | 0 => throw "syntax error"
  | fuel + 1 => do
    matchingOn fuel (← named fuel)

/-- More matches. -/
def matchingOn : Nat → String → Reckon String
  | 0, a => pure a
  | fuel + 1, a => do
    match ← takeOneOf [":"] with
    | none => pure a
    | some _ =>
      let b ← named fuel
      matchingOn fuel (← matched a b)

/-- What a name makes of the values behind it. -/
def named : Nat → Reckon String
  | 0 => throw "syntax error"
  | fuel + 1 => do
    match ← takeOneOf ["+", "length", "match", "index", "substr"] with
    | none => single fuel
    | some "+" => word
    | some "length" =>
      let t ← named fuel
      pure (toString t.length)
    | some "match" =>
      let a ← named fuel
      let b ← named fuel
      matched a b
    | some "index" =>
      let a ← named fuel
      let b ← named fuel
      pure (toString (placeOf a b))
    | some _ =>
      let t ← named fuel
      let start ← named fuel
      let length ← named fuel
      match integer? start, integer? length with
      | some i, some n =>
        if i ≤ 0 || n ≤ 0 then pure ""
        else pure (String.ofList ((t.toList.drop (i.toNat - 1)).take n.toNat))
      | _, _ => pure ""

/-- A word, or an expression in parentheses. -/
def single : Nat → Reckon String
  | 0 => throw "syntax error"
  | fuel + 1 => do
    match ← takeOneOf ["(", ")"] with
    | some "(" =>
      let value ← either fuel
      match ← takeOneOf [")"] with
      | some _ => pure value
      | none =>
        let (words, last) ← get
        match words with
        | [] => throw ("syntax error: expecting ')' after " ++ quoted last)
        | w :: _ => throw ("syntax error: expecting ')' instead of " ++ quoted w)
    | some _ => throw "syntax error: unexpected ')'"
    | none => word

end

end Reckon

/-- **Calculate.** -/
def expr : Work Unit := do
  let given := (← get).call.arguments
  let words := if given.head? = some "--" then given.drop 1 else given
  if words.isEmpty then Work.misuse "missing operand" 2
  match (Reckon.either (24 * words.length + 24)).run (words, "") with
  | .error why => Work.fail why 2
  | .ok (value, (rest, _)) =>
    match rest with
    | w :: _ => Work.fail ("syntax error: unexpected argument " ++ quoted w) 2
    | [] =>
      Work.printLine value
      if Reckon.isNull value then Work.blame 1

end NestedSession.Rehearsal.Program
