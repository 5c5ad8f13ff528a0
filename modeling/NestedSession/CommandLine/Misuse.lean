import NestedSession.CommandLine.Switch
import NestedSession.Text.Unstyled

/-!
# CommandLine/Misuse — why a command line is not carried out

Asking for help or for the version is one reason; all others are mistakes.
-/

namespace NestedSession

/-- Why a command line is not carried out. -/
inductive Misuse where
  /-- Help is asked for. -/
  | help
  /-- The version is asked for. -/
  | version
  /-- Nothing is said where a command must be; help may do. -/
  | nothingSaid
  /-- A command is missing behind the words that name the program so far. -/
  | noCommand (caller : String)
  /-- A word that should be a command is none. -/
  | unknownCommand (word : String)
  /-- A word has no place here. -/
  | unexpected (word : String)
  /-- A switch lacks its value. -/
  | noValue (s : Switch)
  /-- A switch that takes no value has one. -/
  | surplusValue (s : Switch) (value : String)
  /-- A switch that may stand once stands twice. -/
  | repeated (s : Switch)
  /-- A value is none of those that a switch may have. -/
  | noSuchChoice (s : Switch) (value : String)
  /-- A value is not of the kind that a switch takes. -/
  | badValue (s : Switch) (value why : String)
  /-- A value is no text. -/
  | notText
  /-- A switch that must stand does not. -/
  | incomplete
  deriving DecidableEq, Repr, Inhabited

namespace Misuse

/-- The name and version of the program. -/
def versionText : String := "phosh-itest 0.1.0"

/-- A text under an attribute of the terminal. -/
def styled (look text : String) : String := "\x1b[" ++ look ++ "m" ++ text ++ "\x1b[0m"

/-- What was given, between quotes. -/
def given (text : String) : String := "'" ++ styled "33" text ++ "'"

/-- What must be written as it stands, between quotes. -/
def fixed (text : String) : String := "'" ++ styled "1" text ++ "'"

/-- The mistake itself in words, if there is one. -/
def mistake? : Misuse → Option String
  | help | nothingSaid | version => none
  | noCommand caller => some (given caller ++ " requires a subcommand but one was not provided")
  | unknownCommand word => some ("unrecognized subcommand " ++ given word)
  | unexpected word => some ("unexpected argument " ++ given word ++ " found")
  | noValue s => some ("a value is required for " ++ fixed s.shown ++ " but none was supplied")
  | surplusValue s value =>
    some ("unexpected value " ++ given value ++ " for " ++ fixed s.shown
      ++ " found; no more were expected")
  | repeated s => some ("the argument " ++ fixed s.shown ++ " cannot be used multiple times")
  | noSuchChoice s value => some ("invalid value " ++ given value ++ " for " ++ fixed s.shown)
  | badValue s value why =>
    some ("invalid value " ++ given value ++ " for " ++ fixed s.shown ++ ": " ++ why)
  | notText => some "invalid UTF-8 was detected in one or more arguments"
  | incomplete => some "the following required arguments were not provided:"

/-- **The text that answers a command line**, as it is seen where there is no terminal. -/
def complaint? (m : Misuse) : Option String :=
  match m with
  | version => some (versionText ++ "\n")
  | m => m.mistake?.map fun mistake =>
    Text.unstyled (styled "31" "error:" ++ " " ++ mistake ++ "\n\nFor more information, try "
      ++ fixed "--help" ++ ".\n")

/-- **The code the program ends with.**  To ask for help or for the version is no mistake. -/
def exitCode : Misuse → Nat
  | help | version => 0
  | _ => 2

end Misuse

end NestedSession
