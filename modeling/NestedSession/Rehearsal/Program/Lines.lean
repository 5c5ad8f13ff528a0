import NestedSession.Rehearsal.Program.Work
import NestedSession.Rehearsal.Script.Sum

/-!
# Rehearsal/Program/Lines — texts as lines

A text is cut behind each break; the last line may have none.  Counts on the command line may be
followed by a unit.
-/

namespace NestedSession.Rehearsal

/-- The lines of a text, each with whether a break ends it. -/
structure Lined where
  lines : List (List Char)
  /-- Whether the last line is ended by a break. -/
  ended : Bool

namespace Lined

/-- **The lines of a text**; the text is empty if there are none. -/
def ofChars (ending : Char) (cs : List Char) : Lined :=
  let parts := cs.splitOn ending
  if parts.getLast? = some [] then ⟨parts.dropLast, true⟩ else ⟨parts, false⟩

/-- The text of lines. -/
def toChars (ending : Char) (l : Lined) : List Char :=
  let all := l.lines.flatMap fun line => line ++ [ending]
  if l.ended || l.lines.isEmpty then all else all.dropLast

end Lined

namespace Program

/-- The lines of a text without their breaks. -/
def linesOf (ending : Char) (t : String) : List (List Char) := (Lined.ofChars ending t.toList).lines

/-- Write lines, each with a break. -/
def printLines (ending : Char) (lines : List (List Char)) : Work Unit :=
  Work.print (String.ofList (lines.flatMap fun line => line ++ [ending]))

/-- What a unit behind a count multiplies it by. -/
def unitOf? (unit : String) : Option Nat :=
  let powers : List (Char × Nat) :=
    [('K', 1), ('k', 1), ('M', 2), ('m', 2), ('G', 3), ('T', 4), ('P', 5)]
  match unit.toList with
  | [] => some 1
  | ['b'] => some 512
  | [c] | [c, 'i', 'B'] => (powers.lookup c).map fun n => Nat.pow 1024 n
  | [c, 'B'] => (powers.lookup c).map fun n => Nat.pow 1000 n
  | _ => none

/-- The count that a word is. -/
def count? (word : String) : Option Nat :=
  let (n, length) := Number.digits 10 word.toList
  if length = 0 then none
  else (unitOf? (String.ofList (word.toList.drop length))).map (n * ·)

/-- The words of a line. -/
def wordsOf (cs : List Char) : List (List Char) :=
  (cs.splitBy fun a b => Number.isSpace a == Number.isSpace b).filter fun w =>
    !w.head?.any Number.isSpace

/-- A text at the right side of a field. -/
def padLeft (width : Nat) (t : String) : String :=
  String.ofList (List.replicate (width - t.length) ' ') ++ t

/-- A text at the left side of a field. -/
def padRight (width : Nat) (t : String) : String :=
  t ++ String.ofList (List.replicate (width - t.length) ' ')

end Program

end NestedSession.Rehearsal
