import NestedSession.CommandLine.Misuse
import NestedSession.CommandLine.Outcome
import NestedSession.Environment.Variables
import NestedSession.Number.Count
import NestedSession.System.Path

/-!
# CommandLine/Given — the switches that a command line gives

`Given.take` takes in one value of a switch and `Given.flip` a switch without one.  A switch that
may stand only once is refused the second time, before its value is looked at.
-/

namespace NestedSession

/-- What the switches of one scope give. -/
structure Given where
  settings : Option Path := none
  logLevel : Option String := none
  output : Option OutputFormat := none
  sourceDir : Option Path := none
  buildDir : Option Path := none
  assignments : List (String × String) := []
  debugDomains : List String := []
  expectStdout : List String := []
  expectStderr : List String := []
  timeout : Option UInt64 := none
  hold : Bool := false
  saveLogs : Bool := false
  part : Option String := none
  deriving DecidableEq, Repr, Inhabited

/-! ## Values -/

namespace Switch

/-- A value that is a path; the empty one is none. -/
def readPath (s : Switch) (value : Octets) : Except Misuse Path :=
  if value.isEmpty then .error (.noValue s) else .ok value

/-- A value that is a text. -/
def readText (value : Octets) : Except Misuse String :=
  match Utf8.decode? value with
  | some text => .ok text
  | none => .error .notText

/-- A value that names a format. -/
def readFormat (s : Switch) (value : Octets) : Except Misuse OutputFormat :=
  match Utf8.lossy value with
  | "text" => .ok .text
  | "json" => .ok .json
  | "" => .error (.noValue s)
  | other => .error (.noSuchChoice s other)

/-- A value that is a count. -/
def readCount (s : Switch) (value : Octets) : Except Misuse UInt64 := do
  let text ← readText value
  match Count.read text with
  | .ok n => .ok n
  | .error why => .error (.badValue s text why.text)

/-- **A value that is a name and what it is set to**, apart at the first `=`; the name is not
empty. -/
def readAssignment (s : Switch) (value : Octets) : Except Misuse (String × String) := do
  let text ← readText value
  let name := text.toList.takeWhile (· ≠ '=')
  match text.toList.dropWhile (· ≠ '=') with
  | _ :: setting =>
    if name.isEmpty then refuse text else .ok (String.ofList name, String.ofList setting)
  | [] => refuse text
where
  /-- The complaint about a text. -/
  refuse (text : String) : Except Misuse (String × String) :=
    .error (.badValue s text ("expected KEY=VALUE, got '" ++ text ++ "'"))

/-- Read a value where none has been read. -/
def once {α : Type} (s : Switch) (old : Option α) (read : Except Misuse α) :
    Except Misuse (Option α) :=
  if old.isSome then .error (.repeated s) else read.map some

/-- Turn on what has not been turned on. -/
def turnOn (s : Switch) (old : Bool) : Except Misuse Bool :=
  if old then .error (.repeated s) else .ok true

end Switch

/-! ## Taking them in -/

namespace Given

/-- **Take in a value of a switch.** -/
def take (g : Given) (s : Switch) (value : Octets) : Except Misuse Given :=
  match s with
  | .settings => return { g with settings := ← s.once g.settings (s.readPath value) }
  | .logLevel => return { g with logLevel := ← s.once g.logLevel (Switch.readText value) }
  | .output => return { g with output := ← s.once g.output (s.readFormat value) }
  | .sourceDir => return { g with sourceDir := ← s.once g.sourceDir (s.readPath value) }
  | .buildDir => return { g with buildDir := ← s.once g.buildDir (s.readPath value) }
  | .assignment => return { g with assignments := g.assignments ++ [← s.readAssignment value] }
  | .debugDomain => return { g with debugDomains := g.debugDomains ++ [← Switch.readText value] }
  | .expectStdout => return { g with expectStdout := g.expectStdout ++ [← Switch.readText value] }
  | .expectStderr => return { g with expectStderr := g.expectStderr ++ [← Switch.readText value] }
  | .timeout => return { g with timeout := ← s.once g.timeout (s.readCount value) }
  | .part => return { g with part := ← s.once g.part (Switch.readText value) }
  | .hold | .saveLogs | .help | .version => .error (.surplusValue s (Utf8.lossy value))

/-- **Flip a switch that takes no value.**  Help and the version are asked for at once. -/
def flip (g : Given) (s : Switch) : Except Misuse Given :=
  match s with
  | .hold => return { g with hold := ← s.turnOn g.hold }
  | .saveLogs => return { g with saveLogs := ← s.turnOn g.saveLogs }
  | .help => .error .help
  | .version => .error .version
  | _ => .error (.noValue s)

/-- Take a value from the environment where the command line has none. -/
def takeVariable (g : Given) (vars : Variables) (s : Switch) (name : String) (given : Bool) :
    Except Misuse Given :=
  match vars.get? (Utf8.encode name) with
  | some value => if given then .ok g else g.take s value
  | none => .ok g

/-- **The directories of a run from the environment**, where the command line leaves them out. -/
def takeDirectories (g : Given) (vars : Variables) : Except Misuse Given := do
  let g ← g.takeVariable vars .sourceDir "TOPSRCDIR" g.sourceDir.isSome
  g.takeVariable vars .buildDir "TOPBUILDDIR" g.buildDir.isSome

/-- **What an inner scope gives wins over an outer one**, for the switches that may stand in
both. -/
def within (inner outer : Given) : Given :=
  { inner with
    settings := inner.settings <|> outer.settings
    logLevel := inner.logLevel <|> outer.logLevel
    output := inner.output <|> outer.output }

end Given

end NestedSession
