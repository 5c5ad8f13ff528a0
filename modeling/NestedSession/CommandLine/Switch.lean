import NestedSession.Text.Utf8

/-!
# CommandLine/Switch — what may stand on the command line

The words of a command line are read in **scopes**: the program's own, and one for each of its
commands.  A scope knows the commands that lead on from it and the switches that may stand in it.
Some switches may stand anywhere.
-/

namespace NestedSession

/-- Where on the command line a word stands. -/
inductive Scope where
  /-- Before any command. -/
  | program
  /-- Behind `run`. -/
  | run
  /-- Behind `config`. -/
  | config
  /-- Behind `config validate`. -/
  | validation
  /-- Behind `config show`. -/
  | display
  deriving DecidableEq, Repr, Inhabited

/-- The commands that lead on from a scope. -/
def Scope.commands : Scope → List (String × Scope)
  | .program => [("run", .run), ("config", .config)]
  | .config => [("validate", .validation), ("show", .display)]
  | .run | .validation | .display => []

/-- Something that is switched on or given a value. -/
inductive Switch where
  | settings
  | logLevel
  | output
  | sourceDir
  | buildDir
  | assignment
  | debugDomain
  | expectStdout
  | expectStderr
  | timeout
  | hold
  | saveLogs
  | part
  | help
  | version
  deriving DecidableEq, Repr, Inhabited

namespace Switch

/-- The long name, which stands behind two dashes. -/
def long : Switch → String
  | settings => "config"
  | logLevel => "log-level"
  | output => "output"
  | sourceDir => "source-dir"
  | buildDir => "build-dir"
  | assignment => "env"
  | debugDomain => "debug-domain"
  | expectStdout => "expect-stdout"
  | expectStderr => "expect-stderr"
  | timeout => "timeout"
  | hold => "hold"
  | saveLogs => "save-logs"
  | part => "section"
  | help => "help"
  | version => "version"

/-- The short name, a letter that stands behind one dash. -/
def short? : Switch → Option Char
  | settings => some 'c'
  | assignment => some 'e'
  | debugDomain => some 'd'
  | timeout => some 't'
  | help => some 'h'
  | version => some 'V'
  | _ => none

/-- What the value of a switch is called, if it takes one. -/
def valueName? : Switch → Option String
  | settings => some "CONFIG"
  | logLevel => some "LOG_LEVEL"
  | output => some "OUTPUT"
  | sourceDir => some "SOURCE_DIR"
  | buildDir => some "BUILD_DIR"
  | assignment => some "KEY=VALUE"
  | debugDomain => some "DOMAIN"
  | expectStdout | expectStderr => some "TEXT"
  | timeout => some "SECS"
  | part => some "SECTION"
  | hold | saveLogs | help | version => none

/-- A switch as messages name it. -/
def shown (s : Switch) : String :=
  match s.valueName? with
  | some value => "--" ++ s.long ++ " <" ++ value ++ ">"
  | none => "--" ++ s.long

end Switch

/-! ## The switches of a scope -/

/-- The switches that may stand anywhere. -/
def Switch.everywhere : List Switch := [.logLevel, .output, .help]

/-- **The switches that may stand in a scope.** -/
def Scope.switches : Scope → List Switch
  | .program => [.settings, .version] ++ Switch.everywhere
  | .run => [.sourceDir, .buildDir, .assignment, .debugDomain, .expectStdout, .expectStderr,
      .timeout, .hold, .saveLogs] ++ Switch.everywhere
  | .config | .validation => Switch.everywhere
  | .display => .part :: Switch.everywhere

namespace Scope

/-- The switch with a long name. -/
def long? (scope : Scope) (name : Octets) : Option Switch :=
  scope.switches.find? fun s => Utf8.encode s.long == name

/-- The switch with a short name. -/
def short? (scope : Scope) (name : UInt8) : Option Switch :=
  scope.switches.find? fun s => s.short?.any fun c => c.toNat == name.toNat

/-- The scope that a word leads on to. -/
def command? (scope : Scope) (word : Octets) : Option Scope :=
  (scope.commands.find? fun c => Utf8.encode c.1 == word).map Prod.snd

/-- The word that asks for help where a command may stand. -/
def helpWord : Octets := Utf8.encode "help"

/-- Whether a word asks for help. -/
def isHelp (scope : Scope) (word : Octets) : Bool := !scope.commands.isEmpty && word == helpWord

end Scope

/-! ## For a reader -/

namespace Scope

/-- The scopes that are ended by doing something, with the words that lead to them. -/
def ends : List (String × Scope) :=
  Scope.program.commands.flatMap fun (word, scope) =>
    if scope.commands.isEmpty then [(word, scope)]
    else scope.commands.map fun (next, inner) => (word ++ " " ++ next, inner)

/-- The switches of a scope that may not stand everywhere. -/
def ownSwitches (scope : Scope) : List Switch :=
  scope.switches.filter fun s => !Switch.everywhere.contains s

/-- Switches, one a line. -/
def switchLines (indent : String) (switches : List Switch) : String :=
  String.join (switches.map fun s => indent ++ s.shown ++ "\n")

end Scope

/-- **All commands with their switches.** -/
def helpText : String :=
  "Usage: phosh-itest [OPTIONS] <COMMAND>\n\nCommands:\n"
    ++ String.join (Scope.ends.map fun (words, scope) =>
      "  " ++ words ++ "\n" ++ Scope.switchLines "      " scope.ownSwitches)
    ++ "\nOptions:\n" ++ Scope.switchLines "  " Scope.program.switches

end NestedSession
