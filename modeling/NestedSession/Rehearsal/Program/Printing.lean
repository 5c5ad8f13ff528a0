import NestedSession.Rehearsal.Program.Layout
import NestedSession.Rehearsal.Script.Sum

/-!
# Rehearsal/Program/Printing — what `echo` and `printf` write

A backslash begins an escape.  A format is gone through again and again until all words are used;
a directive without a word takes an empty one.  A word that is no number is said to be none, and
what can be read of it is used.
-/

namespace NestedSession.Rehearsal.Printing

/-! ## Escapes -/

/-- Whether a character is an octal digit. -/
def isOctal (c : Char) : Bool := '0' ≤ c && c ≤ '7'

/-- The character that an escape stands for, and what is after it. -/
def escape (cs : List Char) : Char × List Char :=
  match cs with
  | [] => ('\\', [])
  | c :: rest =>
    if isOctal c then
      let ds := (cs.takeWhile isOctal).take 3
      (Char.ofNat ((Number.digits 8 ds).1 % 256), cs.drop ds.length)
    else
      match [('\\', 92), ('a', 7), ('b', 8), ('e', 27), ('f', 12), ('n', 10), ('r', 13), ('t', 9),
        ('v', 11)].lookup c with
      | some n => (Char.ofNat n, rest)
      | none => ('\\', cs)

/-- A text with its escapes resolved, and whether writing goes on behind it. -/
def unescape : Nat → List Char → List Char → List Char × Bool
  | 0, _, got => (got.reverse, true)
  | _, [], got => (got.reverse, true)
  | fuel + 1, '\\' :: rest, got =>
    match rest with
    | 'c' :: _ => (got.reverse, false)
    | '0' :: d :: more =>
      let (c, rest) := escape (if isOctal d then d :: more else rest)
      unescape fuel rest (c :: got)
    | rest =>
      let (c, rest) := escape rest
      unescape fuel rest (c :: got)
  | fuel + 1, c :: rest, got => unescape fuel rest (c :: got)

/-- A text with its escapes resolved, and whether writing goes on behind it. -/
def unescaped (cs : List Char) : List Char × Bool := unescape (cs.length + 1) cs []

/-- **What `echo` writes.** -/
def echoed (words : List String) : String :=
  let (silent, words) := match words with
    | "-n" :: rest => (true, rest)
    | words => (false, words)
  let (cs, goesOn) := unescaped (" ".intercalate words).toList
  String.ofList (if silent || !goesOn then cs else cs ++ ['\n'])

/-! ## Formats -/

/-- How far a format is filled in. -/
structure Filling where
  /-- What is written, the last character first. -/
  written : List Char
  /-- The words that are left. -/
  words : List String
  /-- What is said of the words, the last thing first. -/
  warnings : List String
  /-- Whether all writing is over. -/
  isOver : Bool
  /-- Why the rest cannot be written. -/
  fault : Option String

namespace Filling

/-- Write characters. -/
def write (f : Filling) (cs : List Char) : Filling := { f with written := cs.reverse ++ f.written }

/-- Take a word, if one is left. -/
def take (f : Filling) : Option String × Filling :=
  (f.words.head?, { f with words := f.words.drop 1 })

/-- Say something of a word. -/
def warn (f : Filling) (word text : String) : Filling :=
  { f with warnings := (word ++ ": " ++ text) :: f.warnings }

/-- Say how much of a word was read. -/
def check (f : Filling) (word : String) (isEmpty isCut : Bool) (rest : List Char) : Filling :=
  if !rest.isEmpty then
    f.warn word (if isEmpty then "expected numeric value" else "not completely converted")
  else if isCut then f.warn word "Numerical result out of range"
  else f

/-- The number of a character behind a quote. -/
def quoted? (word : String) : Option Nat :=
  match word.toList with
  | q :: rest => if q = '"' || q = '\'' then some ((rest.head?.map Char.toNat).getD 0) else none
  | [] => none

/-- Take a whole number. -/
def takeInteger (f : Filling) : Int × Filling :=
  match f.take with
  | (none, f) => (0, f)
  | (some word, f) =>
    match quoted? word with
    | some n => (n, f)
    | none =>
      let n := Number.leading none word.toList
      (n.value, f.check word n.isEmpty n.isCut n.rest)

/-- Take a number without a sign: one below zero counts from the other end. -/
def takeNatural (f : Filling) : Nat × Filling :=
  match f.take with
  | (none, f) => (0, f)
  | (some word, f) =>
    match quoted? word with
    | some n => (n, f)
    | none =>
      let trimmed := word.toList.dropWhile Number.isSpace
      let (negative, unsigned) := match trimmed with
        | '-' :: rest => (true, rest)
        | '+' :: rest => (false, rest)
        | rest => (false, rest)
      match Number.leadingNat none unsigned with
      | none => (0, f.check word true false word.toList)
      | some (n, rest) =>
        let isCut := UInt64.size ≤ n
        let n := if isCut then UInt64.size - 1 else if negative then (UInt64.size - n) % UInt64.size
          else n
        (n, f.check word false isCut rest)

end Filling

/-- A number with a fraction that a text begins with, and the rest. -/
def leadingReal (cs : List Char) : Option (Quantity × List Char) :=
  let trimmed := cs.dropWhile Number.isSpace
  let (negative, unsigned) := match trimmed with
    | '-' :: rest => (true, rest)
    | '+' :: rest => (false, rest)
    | rest => (false, rest)
  let whole := unsigned.takeWhile Char.isDigit
  let behind := unsigned.drop whole.length
  let fraction := match behind with
    | '.' :: rest => rest.takeWhile Char.isDigit
    | _ => []
  let hasPoint := behind.head? = some '.'
  if whole.isEmpty && fraction.isEmpty then
    let lower := unsigned.map Char.toLower
    if "infinity".toList.isPrefixOf lower then some (.infinite negative, unsigned.drop 8)
    else if "inf".toList.isPrefixOf lower then some (.infinite negative, unsigned.drop 3)
    else if "nan".toList.isPrefixOf lower then some (.notANumber negative, unsigned.drop 3)
    else none
  else
    let rest := if hasPoint then behind.drop (fraction.length + 1) else behind
    let exponent : Option (Int × List Char) := match rest with
      | e :: more =>
        if e = 'e' || e = 'E' then
          let (below, ds) := match more with
            | '-' :: ds => (true, ds)
            | '+' :: ds => (false, ds)
            | ds => (false, ds)
          let (n, count) := Number.digits 10 ds
          if count = 0 then none else some (if below then -(n : Int) else n, ds.drop count)
        else none
      | [] => none
    let (k, rest) := exponent.getD (0, rest)
    let n := (Number.digits 10 (whole ++ fraction)).1
    some (.ofBinary64 (.ofDecimal negative n (k - fraction.length)), rest)

/-- Take a number with a fraction. -/
def Filling.takeReal (f : Filling) : Quantity × Filling :=
  match f.take with
  | (none, f) => (.ratio false 0 1, f)
  | (some word, f) =>
    match Filling.quoted? word with
    | some n => (.ratio false n 1, f)
    | none =>
      match leadingReal word.toList with
      | some (x, rest) => (x, f.check word false false rest)
      | none => (.ratio false 0 1, f.check word true false word.toList)

/-- The width or the precision of a directive, which may be taken from a word. -/
def takeCount (cs : List Char) (f : Filling) : Option Int × List Char × Filling :=
  match cs with
  | '*' :: rest =>
    let (n, f) := f.takeInteger
    (some n, rest, f)
  | cs =>
    let (n, count) := Number.digits 10 cs
    (if count = 0 then none else some n, cs.drop count, f)

/-- Fill one directive in. -/
def fillDirective (d : Directive) (kind : Char) (spelling : List Char) (f : Filling) : Filling :=
  match kind with
  | 's' =>
    let (word, f) := f.take
    f.write (d.text (word.getD "").toList)
  | 'b' =>
    let (word, f) := f.take
    let (cs, goesOn) := unescaped (word.getD "").toList
    { f.write (d.text cs) with isOver := !goesOn }
  | 'c' =>
    let (word, f) := f.take
    let c := ((word.getD "").toList.head?).getD (Char.ofNat 0)
    f.write (d.fill false [] [c])
  | _ =>
    if kind = 'd' || kind = 'i' then
      let (n, f) := f.takeInteger
      f.write (d.integer n)
    else if "ouxX".toList.contains kind then
      let (n, f) := f.takeNatural
      f.write (d.natural kind n)
    else if "eEfFgG".toList.contains kind then
      let (x, f) := f.takeReal
      f.write (d.real kind x)
    else { f with isOver := true, fault := some (String.ofList spelling ++ ": invalid directive") }

/-- A directive behind its sign, and what is after it. -/
def readDirective (cs : List Char) (f : Filling) : Directive × List Char × Filling :=
  let flags := cs.takeWhile fun c => "#-+ 0".toList.contains c
  let d := Directive.usual.withFlags flags
  let (width, cs, f) := takeCount (cs.drop flags.length) f
  let d := match width with
    | some n => if n < 0 then { d with left := true, width := n.natAbs }
      else { d with width := n.natAbs }
    | none => d
  match cs with
  | '.' :: cs =>
    let (precision, cs, f) := takeCount cs f
    let precision := match precision with
      | some n => if n < 0 then none else some n.toNat
      | none => some 0
    ({ d with precision }, cs, f)
  | cs => (d, cs, f)

/-- **One pass over a format.** -/
def fillOnce : Nat → List Char → Filling → Filling
  | 0, _, f => f
  | _, [], f => f
  | fuel + 1, '\\' :: rest, f =>
    let (c, rest) := escape rest
    fillOnce fuel rest (f.write [c])
  | fuel + 1, '%' :: '%' :: rest, f => fillOnce fuel rest (f.write ['%'])
  | fuel + 1, '%' :: rest, f =>
    let (d, behind, f) := readDirective rest f
    match behind with
    | [] => { f with isOver := true, fault := some "missing format character" }
    | kind :: behind =>
      let spelling := '%' :: rest.take (rest.length - behind.length)
      let f := fillDirective d kind spelling f
      if f.isOver then f else fillOnce fuel behind f
  | fuel + 1, c :: rest, f => fillOnce fuel rest (f.write [c])

/-- A format again and again, as long as it uses words up. -/
def fillAll (format : List Char) : Nat → Filling → Filling
  | 0, f => f
  | fuel + 1, f =>
    let g := fillOnce (format.length + 1) format f
    if g.isOver || g.words.isEmpty || g.words.length = f.words.length then g
    else fillAll format fuel g

/-- **What `printf` writes.** -/
def printed (format : String) (words : List String) : Filling :=
  fillAll format.toList (words.length + 1) ⟨[], words, [], false, none⟩

/-- The text that is written. -/
def Filling.text (f : Filling) : String := String.ofList f.written.reverse

end NestedSession.Rehearsal.Printing
