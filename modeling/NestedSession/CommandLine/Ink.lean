/-!
# CommandLine/Ink — coloured words on a terminal

A word is coloured by a sequence of characters before it and one after it that sets everything
back.  A word that sets everything back itself gets its colour again right behind.
-/

namespace NestedSession

/-- How a word looks. -/
inductive Ink where
  | good
  | bad
  | wrong
  | doubtful
  | strong
  deriving DecidableEq, Repr

namespace Ink

/-- The attributes of an ink: bold is 1, and red, green and yellow are 31, 32 and 33. -/
def attributes : Ink → String
  | good => "1;32"
  | bad => "1;31"
  | wrong => "31"
  | doubtful => "33"
  | strong => "1"

/-- The sequence that takes up an ink. -/
def start (ink : Ink) : List Char := ("\x1b[" ++ ink.attributes ++ "m").toList

/-- The sequence that sets everything back. -/
def reset : List Char := "\x1b[0m".toList

/-- The rest of a list behind a beginning. -/
def afterPrefix? : List Char → List Char → Option (List Char)
  | [], rest => some rest
  | _ :: _, [] => none
  | p :: ps, c :: cs => if p = c then afterPrefix? ps cs else none

/-- Take up an ink again behind every reset.  At most `fuel` characters are looked at. -/
def renew (ink : Ink) : Nat → List Char → List Char
  | 0, cs => cs
  | _, [] => []
  | fuel + 1, c :: cs =>
    match afterPrefix? reset (c :: cs) with
    | some rest => reset ++ ink.start ++ renew ink fuel rest
    | none => c :: renew ink fuel cs

/-- **A word in an ink**, if there are colours at all. -/
def paint (ink : Ink) (colours : Bool) (word : String) : String :=
  if colours then
    String.ofList (ink.start ++ renew ink word.length word.toList ++ reset)
  else word

end Ink

end NestedSession
