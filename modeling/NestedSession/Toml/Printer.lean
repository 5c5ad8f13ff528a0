import NestedSession.Toml.Strings
import NestedSession.Text.Quoted

/-!
# Toml/Printer — writing values for a reader

A string takes the first of these forms that shows it without escapes: double quotes, single
quotes, three double quotes, three single quotes.  If none does, it stands in double quotes with
escapes, in three of them if it has line ends.  An array of two or more elements has one on each
line.
-/

namespace NestedSession.Toml

/-- The longest run of a character in a text. -/
def longestRun (quote : Char) (s : List Char) : Nat :=
  (s.foldl (fun (run, best) c => if c = quote then (run + 1, max best (run + 1)) else (0, best))
    (0, 0)).2

/-- Controls other than tab and line end, which no form shows as they are. -/
def needsCode (c : Char) : Bool := !isPlain c && c ≠ '\n'

/-- The forms of a string. -/
inductive Form where
  | basic
  | literal
  | basicLines
  | literalLines
  deriving DecidableEq, Repr

/-- **The form of a string.** -/
def formOf (s : List Char) : Form :=
  let coded := s.any needsCode
  let slashed := s.contains '\\'
  let lined := s.contains '\n'
  let doubles := longestRun '"' s
  let singles := longestRun '\'' s
  if !coded && !slashed && doubles = 0 && !lined then .basic
  else if !coded && singles = 0 && !lined then .literal
  else if !coded && !slashed && doubles ≤ 2 then .basicLines
  else if !coded && singles ≤ 2 then .literalLines
  else if lined then .basicLines
  else .basic

/-- A hexadecimal number of four capital digits. -/
def code (n : Nat) : List Char :=
  let digits := (Nat.toDigits 16 n).map Char.toUpper
  List.replicate (4 - digits.length) '0' ++ digits

/-- **The characters of a string between double quotes.**  Of quotes in a row, `limit` stand for
themselves before one is escaped; `run` of them were just written. -/
def escapeAll (limit : Nat) (lines : Bool) (run : Nat) : List Char → List Char
  | [] => []
  | c :: r =>
    if c = '"' then
      if run < limit then '"' :: escapeAll limit lines (run + 1) r
      else '\\' :: '"' :: escapeAll limit lines 0 r
    else if c = '\\' then '\\' :: '\\' :: escapeAll limit lines 0 r
    else if c = '\n' then
      (if lines then ['\n'] else ['\\', 'n']) ++ escapeAll limit lines 0 r
    else if c = '\t' then '\\' :: 't' :: escapeAll limit lines 0 r
    else if c = '\x08' then '\\' :: 'b' :: escapeAll limit lines 0 r
    else if c = '\x0c' then '\\' :: 'f' :: escapeAll limit lines 0 r
    else if c = '\r' then '\\' :: 'r' :: escapeAll limit lines 0 r
    else if isPlain c then c :: escapeAll limit lines 0 r
    else '\\' :: 'u' :: (code c.toNat ++ escapeAll limit lines 0 r)

/-- Opening quotes of a string over lines end their line if the string has line ends. -/
def opening (s : List Char) : List Char := if s.contains '\n' then ['\n'] else []

/-- **A string as it is written.** -/
def writeString (text : String) : List Char :=
  let s := text.toList
  match formOf s with
  | .basic => '"' :: escapeAll 0 false 0 s ++ ['"']
  | .literal => '\'' :: s ++ ['\'']
  | .basicLines => ['"', '"', '"'] ++ opening s ++ escapeAll 2 true 0 s ++ ['"', '"', '"']
  | .literalLines => ['\'', '\'', '\''] ++ opening s ++ s ++ ['\'', '\'', '\'']

/-- An array of strings as it is written. -/
def writeStrings : List String → List Char
  | [] => ['[', ']']
  | [t] => '[' :: writeString t ++ [']']
  | ts => '[' :: '\n' :: ts.flatMap (fun t => [' ', ' ', ' ', ' '] ++ writeString t ++ [',', '\n'])
    ++ [']']

/-- A truth value as it is written. -/
def writeBool (b : Bool) : List Char := if b then "true".toList else "false".toList

/-- A whole number as it is written. -/
def writeNat (n : Nat) : List Char := Nat.toDigits 10 n

/-- An assignment on its line. -/
def writeLine (key : String) (value : List Char) : List Char :=
  key.toList ++ [' ', '=', ' '] ++ value ++ ['\n']

/-- A header on its line. -/
def writeHeader (name : String) : List Char := '[' :: name.toList ++ [']', '\n']

end NestedSession.Toml
