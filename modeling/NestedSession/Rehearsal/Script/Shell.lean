import NestedSession.Number.Count
import NestedSession.Rehearsal.Latin
import NestedSession.Rehearsal.Role
import NestedSession.Rehearsal.Script.Command

/-!
# Rehearsal/Script/Shell — the state of a script that is played

A shell has variables, functions, arguments and all else that commands change.  Its texts have one
character for each octet.
-/

namespace NestedSession.Rehearsal

/-- A variable; one without a value may still be marked. -/
structure Variable where
  value : Option String
  /-- Whether programs are given it. -/
  exported : Bool
  /-- Whether its value stays. -/
  fixed : Bool

/-- The processes of a pipe, with the statuses of those that have ended. -/
structure Job where
  number : Nat
  processes : List (Pid × Option Int32)
  /-- Whether somebody has asked how it ended. -/
  told : Bool

/-- The state of a script. -/
structure Shell where
  vars : List (String × Variable)
  /-- The variables that calls keep for themselves, as they were before, the innermost call
  first. -/
  kept : List (List (String × Option Variable))
  /-- The name in messages. -/
  name : String
  arguments : List String
  functions : List (String × Command)
  aliases : List (String × String)
  /-- What to do on a signal; zero is the end of the script. -/
  traps : List (Nat × String)
  options : List Char
  /-- The signals that were ignored from the beginning, which stays so. -/
  deaf : List Nat
  status : Nat
  /-- The status that the script ends with if it ends in what is done on a signal. -/
  earlier : Option Nat
  /-- The status of the last command whose output was put in, since the words began. -/
  outputStatus : Nat
  /-- The loops around the command. -/
  loops : Nat
  /-- The calls around the command. -/
  calls : Nat
  line : Nat
  /-- The builtin at work. -/
  builtin : Option String
  /-- The jobs, the latest first. -/
  jobs : List Job
  lastJob : Option Pid
  /-- The process in which the script began. -/
  self : Pid
  parent : Pid
  /-- The path of its directory as the script went there. -/
  directory : String
  /-- The number of the word that `getopts` looks at next. -/
  index : Nat
  /-- Where in the word before it `getopts` is, or zero. -/
  cursor : Nat
  /-- The programs that were found along the search path. -/
  found : List String
  /-- The documents of the script. -/
  documents : Array Word
  /-- What the builtin at work has written, the latest first. -/
  written : List String

instance : Inhabited Shell :=
  ⟨{ vars := [], kept := [], name := "", arguments := [], functions := [], aliases := []
     traps := [], options := [], deaf := [], status := 0, earlier := none, outputStatus := 0
     loops := 0, calls := 0, line := 0
     builtin := none, jobs := [], lastJob := none, self := 0, parent := 0, directory := "/"
     index := 1, cursor := 0, found := [], documents := #[], written := [] }⟩

namespace Shell

/-- The value of a variable. -/
def get? (sh : Shell) (name : String) : Option String := (sh.vars.lookup name).bind (·.value)

/-- Enter a variable. -/
def enter (name : String) (v : Variable) : List (String × Variable) → List (String × Variable)
  | [] => [(name, v)]
  | (n, old) :: rest => if n = name then (n, v) :: rest else (n, old) :: enter name v rest

/-- What else changes with a variable. -/
def heed (sh : Shell) (name value : String) : Shell :=
  if name = "PATH" then { sh with found := [] }
  else if name = "OPTIND" then { sh with index := max 1 (value.toNat?.getD 1), cursor := 0 }
  else sh

/-- Give a variable a value, and nothing more. -/
def put (sh : Shell) (name value : String) : Shell :=
  let v := (sh.vars.lookup name).getD ⟨none, false, false⟩
  let exported := v.exported || sh.options.contains 'a'
  { sh with vars := enter name { v with value := some value, exported } sh.vars }

/-- Give a variable a value. -/
def set (sh : Shell) (name value : String) : Shell := (sh.heed name value).put name value

/-- Mark a variable. -/
def mark (sh : Shell) (name : String) (f : Variable → Variable) : Shell :=
  let v := (sh.vars.lookup name).getD ⟨none, false, false⟩
  { sh with vars := enter name (f v) sh.vars }

/-- Whether a variable cannot be changed. -/
def isFixed (sh : Shell) (name : String) : Bool := (sh.vars.lookup name).any (·.fixed)

/-- The variables that every script has. -/
def standing : List (String × String) :=
  [("OPTIND", "1"), ("PS4", "+ "), ("PS2", "> "), ("PS1", "# "), ("PATH", ""), ("MAILPATH", ""),
    ("MAIL", ""), ("IFS", " \t\n")]

/-- Forget the value of a variable. -/
def unset (sh : Shell) (name : String) : Shell :=
  if (standing.lookup name).isSome then
    { sh.heed name "" with vars := enter name ⟨none, false, false⟩ sh.vars }
  else { sh with vars := sh.vars.filter (·.1 != name) }

/-- **Keep a variable for the call**: it will be as it is now when the call is over. -/
def keep (sh : Shell) (name : String) : Shell :=
  match sh.kept with
  | [] => sh
  | scope :: outer =>
    if scope.any (·.1 == name) then sh
    else { sh with kept := ((name, sh.vars.lookup name) :: scope) :: outer }

/-- Begin a call's own variables. -/
def beginScope (sh : Shell) : Shell := { sh with kept := [] :: sh.kept }

/-- **End a call's own variables.** -/
def endScope (sh : Shell) : Shell :=
  match sh.kept with
  | [] => sh
  | scope :: outer =>
    let restored := scope.foldl (fun (sh : Shell) (name, before) =>
      match before with
      | some v => { sh.heed name (v.value.getD "") with vars := enter name v sh.vars }
      | none => { sh.heed name "" with vars := sh.vars.filter (·.1 != name) }) sh
    { restored with kept := outer }

/-- Whether an option is on. -/
def has (sh : Shell) (option : Char) : Bool := sh.options.contains option

/-- The characters that separate words. -/
def separators (sh : Shell) : List Char :=
  match sh.vars.lookup "IFS" with
  | some ⟨some value, _, _⟩ => value.toList
  | _ => [' ', '\t', '\n']

/-- The order in which programs are given variables. -/
def rank (name : String) : Nat :=
  let cs := name.toList.map Char.toNat
  (16 * cs.headD 0 + Number.total cs) % 39

/-- **The variables that programs are given.** -/
def environment (sh : Shell) : List (String × String) :=
  let given := sh.vars.filterMap fun (name, v) =>
    if v.exported then v.value.map fun value => (name, value) else none
  given.mergeSort fun a b => rank a.1 ≤ rank b.1

/-- The search path of a script that is given none. -/
def standardPath : String := "/usr/local/sbin:/usr/local/bin:/usr/sbin:/usr/bin:/sbin:/bin"

/-- A script at its beginning. -/
def opening (vars : List (String × String)) (name : String) (arguments : List String)
    (directory : String) (self parent : Pid) : Shell :=
  let standing := standing.map fun (n, value) =>
    (n, (⟨if value.isEmpty then none else some value, false, false⟩ : Variable))
  let path : Variable := ⟨some standardPath, false, false⟩
  let standing := enter "PATH" path standing
  let given := vars.filter fun (n, _) => Word.isName n.toList
  let all := given.foldl (fun all (n, value) => enter n ⟨some value, true, false⟩ all) standing
  -- These are the script's own, but a program is given them if the script was.
  let own := [("IFS", " \t\n"), ("OPTIND", "1"), ("PPID", toString parent.toNat)]
  let all := own.foldl (fun all (n, value) =>
    enter n ⟨some value, ((all.lookup n).map (·.exported)).getD false, false⟩ all) all
  let all := enter "PWD" ⟨some directory, true, false⟩ all
  { (default : Shell) with vars := all, name, arguments, directory, self, parent }

end Shell

end NestedSession.Rehearsal
