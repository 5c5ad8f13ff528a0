import NestedSession.Rehearsal.Script.Builtin.Basic

/-!
# Rehearsal/Script/Finding — what the name of a command means

A name is that of a function, of a builtin, or of a program; a path is always that of a program.
Programs that were found along the search path are remembered.
-/

namespace NestedSession.Rehearsal

/-- What a name means. -/
inductive Meaning where
  | function (body : Command)
  | builtin (name : String)
  /-- A program by its path. -/
  | program (path : String)
  /-- Nothing that could be run. -/
  | nothing (e : Errno)

/-- The other builtins. -/
def usualNames : List String :=
  ["alias", "bg", "cd", "chdir", "command", "echo", "false", "fg", "getopts", "hash", "jobs",
    "kill", "printf", "pwd", "read", "test", "[", "true", "type", "ulimit", "umask", "unalias",
    "wait"]

/-- The builtins whose words may set variables. -/
def settingNames : List String := ["export", "readonly", "local"]

/-- Whether a name is that of a builtin. -/
def isBuiltin (name : String) : Bool := specialNames.contains name || usualNames.contains name

namespace Shell

/-- The search path. -/
def searchPath (sh : Shell) : String := (sh.get? "PATH").getD ""

/-- The path of a program that is looked for along a search path. -/
def findAlong (t : Files) (cwd : Place) (path name : String) : Except Errno String :=
  let probe (file : String) : Except Errno String :=
    (Program.runnable t cwd file).map fun _ => file
  let dirs := Program.directories path
  match Program.tryAlong probe name false dirs with
  | .ok file => .ok file
  | .error e => .error e

/-- What a name means without a look at the files. -/
def meaning? (sh : Shell) (name : String) (withFunctions : Bool) : Option Meaning :=
  if Program.isPath name then some (.program name)
  else if specialNames.contains name then some (.builtin name)
  else match if withFunctions then sh.functions.lookup name else none with
    | some body => some (.function body)
    | none => if usualNames.contains name then some (.builtin name) else none

/-- **What a name means.** -/
def meaning (sh : Shell) (t : Files) (cwd : Place) (path name : String)
    (withFunctions : Bool) : Meaning :=
  match sh.meaning? name withFunctions with
  | some meaning => meaning
  | none => match findAlong t cwd path name with
    | .ok file => .program file
    | .error e => .nothing e

end Shell

namespace Scene

/-- What is said of a command that cannot be run. -/
def refusal (e : Errno) : String :=
  if e = .noEntry || e = .notDirectory then "not found" else e.text

/-- What a name means. -/
def meaningOf (path name : String) (withFunctions : Bool) : Scene Meaning := do
  let sh ← get
  lift (Play.view fun files cwd => sh.meaning files cwd path name withFunctions)

/-- Remember a program. -/
def remember (name : String) : Scene Unit := modify fun sh =>
  if Program.isPath name || sh.found.contains name then sh
  else { sh with found := sh.found ++ [name] }

/-- The code of a command that cannot be run. -/
def refusalCode (e : Errno) : Nat :=
  if e = .linkLoop || e = .nameTooLong || e = .noEntry || e = .notDirectory then 127 else 126

/-- **Become a program**, along a search path; if that cannot be, the process ends. -/
def become (co : Company) (path : String) (words : List String) : Scene Unit := do
  let sh ← get
  let environment := sh.environment
  let found ← lift (Play.view fun files cwd => Program.find files cwd path words true)
  match found with
  | .ok (name, words) =>
    lift (Play.change fun pid m => m.renew pid)
    let code ← lift (co.program name ⟨words, environment⟩)
    exit code
  | .error e =>
    warn (words.headD "" ++ ": " ++ refusal e)
    setStatus (refusalCode e)
    throw .end_

end Scene

end NestedSession.Rehearsal
