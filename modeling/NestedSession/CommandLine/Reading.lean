import NestedSession.CommandLine.Given
import NestedSession.CommandLine.Run

/-!
# CommandLine/Reading — from words to a request

Words are read from left to right, scope by scope (`Scope.read`).

* A switch with its value in the same word is taken in at once; one with its value in the next word
  is **pending**, and is taken in only when the next switch is met or the scope ends.  So of two
  mistakes, a word that has no place is told before a pending value that is no good.
* A word that names a command ends the scope, unless a value is owed.  What is wrong behind the
  command is told before what is pending in front of it.
-/

namespace NestedSession

/-- What the program is to do. -/
inductive CommandRequest where
  | run (request : RunRequest)
  | validateSettings
  | showSettings (part : Option String)
  deriving DecidableEq, Repr, Inhabited

/-- All that a command line asks for. -/
structure ProgramRequest where
  /-- The file with the settings. -/
  settings : Path
  /-- The level of the program's own log, if not the one of the settings. -/
  logLevel : Option String
  /-- How payloads are shown. -/
  output : OutputFormat
  command : CommandRequest
  deriving DecidableEq, Repr, Inhabited

/-! ## Words -/

/-- A word by its dashes. -/
inductive Word where
  /-- Two dashes: all that follow are plain. -/
  | dashes
  /-- A long name and perhaps a value. -/
  | long (name : Octets) (value : Option Octets)
  /-- Short names, the last of them perhaps with a value. -/
  | short (names : Octets)
  /-- Anything else, a dash alone included. -/
  | plain
  deriving DecidableEq, Repr, Inhabited

namespace Word

/-- The octet of a dash. -/
def dash : UInt8 := 0x2D

/-- The octet between a name and its value. -/
def equals : UInt8 := 0x3D

/-- What follows the first `=`, if there is one. -/
def valueIn (word : Octets) : Option Octets :=
  match word.dropWhile (· ≠ equals) with
  | _ :: value => some value
  | [] => none

/-- **A word by its dashes.** -/
def ofOctets : Octets → Word
  | a :: b :: rest =>
    if a ≠ dash then plain
    else if b ≠ dash then short (b :: rest)
    else if rest.isEmpty then dashes
    else long (rest.takeWhile (· ≠ equals)) (valueIn rest)
  | _ => plain

/-- The value behind a short name: all that is left of the word, without the `=` it may begin
with. -/
def attached? : Octets → Option Octets
  | [] => none
  | b :: rest => if b = equals then some rest else some (b :: rest)

end Word

/-! ## Reading one scope -/

/-- What has been read of a scope. -/
structure Reading where
  given : Given := {}
  /-- A switch that has not been taken in, with its value unless that is the next word. -/
  pending : Option (Switch × Option Octets) := none
  deriving DecidableEq, Repr, Inhabited

namespace Reading

/-- Whether the next word is a value. -/
def owed? (r : Reading) : Option Switch :=
  match r.pending with
  | some (s, none) => some s
  | _ => none

/-- **Take in what is pending.** -/
def settle (r : Reading) : Except Misuse Given :=
  match r.pending with
  | none => .ok r.given
  | some (s, none) => .error (.noValue s)
  | some (s, some value) => r.given.take s value

/-- **Meet a switch**, with the value that its word holds. -/
def meet (r : Reading) (s : Switch) (value : Option Octets) : Except Misuse Reading := do
  let g ← r.settle
  match value with
  | some value => return { given := ← g.take s value }
  | none =>
    if s.valueName?.isSome then return { given := g, pending := some (s, none) }
    else return { given := ← g.flip s }

/-- Meet a switch by its long name.  A value too many is told before all that is pending. -/
def meetLong (scope : Scope) (r : Reading) (name : Octets) (value : Option Octets) :
    Except Misuse Reading :=
  match scope.long? name, value with
  | none, _ => .error (.unexpected ("--" ++ Utf8.lossy name))
  | some s, none => r.meet s none
  | some s, some value =>
    if s.valueName?.isSome then r.meet s value else .error (.surplusValue s (Utf8.lossy value))

/-- Meet switches by their short names.  The first that takes a value takes the rest of the word,
if there is any. -/
def meetShort (scope : Scope) (r : Reading) : Octets → Except Misuse Reading
  | [] => .ok r
  | name :: rest =>
    match scope.short? name with
    | none =>
      let shown := match Utf8.first? (name :: rest) with
        | some c => String.singleton c
        | none => Utf8.lossy (name :: rest)
      .error (.unexpected ("-" ++ shown))
    | some s =>
      if s.valueName?.isSome then r.meet s (Word.attached? rest)
      else do
        let r ← r.meet s none
        meetShort scope r rest

end Reading

/-! ## Reading scope by scope -/

namespace Scope

/-- What a command line asks for when its words end in this scope.  The caller is the program with
the commands so far. -/
def finish (scope : Scope) (caller : String) (vars : Variables) (r : Reading) :
    Except Misuse (CommandRequest × Given) := do
  let g ← r.settle
  match scope with
  | program | config => .error (if g = {} then .nothingSaid else .noCommand caller)
  | run =>
    let g ← g.takeDirectories vars
    match g.sourceDir, g.buildDir with
    | some sourceDir, some buildDir =>
      return (.run {
        sourceDir, buildDir, assignments := g.assignments, debugDomains := g.debugDomains,
        expectStdout := g.expectStdout, expectStderr := g.expectStderr, timeout := g.timeout,
        hold := g.hold, saveLogs := g.saveLogs }, g)
    | _, _ => .error .incomplete
  | validation => return (.validateSettings, g)
  | display => return (.showSettings g.part, g)

/-- A plain word that is no value has no place anywhere. -/
def refuse (scope : Scope) (word : Octets) : Misuse :=
  if scope.commands.isEmpty then .unexpected (Utf8.lossy word)
  else .unknownCommand (Utf8.lossy word)

/-- **Help on the commands that words lead to.**  Help on help is help, too. -/
def helpOn (scope : Scope) : List Octets → Misuse
  | [] => .help
  | word :: rest =>
    match scope.command? word, rest with
    | some inner, rest => inner.helpOn rest
    | none, [] => if scope.isHelp word then .help else .unknownCommand (Utf8.lossy word)
    | none, next :: _ =>
      .unknownCommand (Utf8.lossy (if scope.isHelp word then next else word))

/-- The caller behind one more command. -/
def callerWith (caller : Option String) (word : Octets) : Option String :=
  some (caller.elim (Utf8.lossy word) (· ++ " " ++ Utf8.lossy word))

/-- **Read words in a scope and in those that they lead to.** -/
def read (vars : Variables) : Scope → Option String → Reading → List Octets →
    Except Misuse (CommandRequest × Given)
  | scope, caller, r, [] => scope.finish (caller.getD "phosh-itest") vars r
  | scope, caller, r, word :: rest =>
    match r.owed?, scope.command? word with
    | none, some inner => do
      let (request, g) ← read vars inner (callerWith caller word) {} rest
      let outer ← r.settle
      return (request, g.within outer)
    | owed, _ =>
      if owed.isNone && scope.isHelp word then .error (scope.helpOn rest)
      else match Word.ofOctets word, owed with
        | .dashes, _ =>
          match rest with
          | [] => scope.finish (caller.getD "phosh-itest") vars r
          | next :: _ =>
            if (scope.command? next).isSome || scope.isHelp next then
              .error (.unexpected (Utf8.lossy next))
            else .error (scope.refuse next)
        | .long name value, _ => do read vars scope caller (← r.meetLong scope name value) rest
        | .short names, _ => do read vars scope caller (← r.meetShort scope names) rest
        | .plain, some s => read vars scope caller { r with pending := some (s, some word) } rest
        | .plain, none => .error (scope.refuse word)

end Scope

/-- **Read a command line.**  Its first word is how the program was called. -/
def ProgramRequest.ofWords (words : List Octets) (vars : Variables) :
    Except Misuse ProgramRequest := do
  let caller := words.head?.bind fun word => (Path.fileName? word).bind Utf8.decode?
  let (command, g) ← Scope.program.read vars caller {} words.tail
  return {
    settings := g.settings.getD (Utf8.encode "phosh-itest.toml")
    logLevel := g.logLevel
    output := g.output.getD .text
    command }

end NestedSession
