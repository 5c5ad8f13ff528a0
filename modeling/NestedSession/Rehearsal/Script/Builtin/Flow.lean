import NestedSession.Rehearsal.Program.Printing
import NestedSession.Rehearsal.Program.Test
import NestedSession.Rehearsal.Script.Builtin.Names

/-!
# Rehearsal/Script/Builtin/Flow — where a script goes on, and its shortest commands

    : true false break continue return exit exec . command echo printf test [
-/

namespace NestedSession.Rehearsal.Builtin

/-! ## Jumps -/

/-- Nothing but a status. -/
def only (status : Nat) : Builtin := fun _ _ => pure status

/-- Leave loops; outside of all loops nothing is left. -/
def leaveLoops (leave : Nat → Leave) : Builtin := fun _ words => do
  let n ← match words with
    | word :: _ => number word
    | [] => pure 1
  if n = 0 then Scene.fail ("Illegal number: " ++ words.headD "")
  else
    let levels := min n (← get).loops
    if 0 < levels then
      Scene.setStatus 0
      throw (leave levels)
    pure 0

/-- Leave a function, or a script that is read by another. -/
def return_ : Builtin := fun _ words => do
  match words with
  | word :: _ =>
    Scene.setStatus (← number word)
    throw (.return_ true)
  | [] => throw (.return_ false)

/-- **End the script**, with a status of its own or with the one there is. -/
def exit : Builtin := fun _ words => do
  match words with
  | word :: _ =>
    let status ← number word
    modify fun sh => { sh with earlier := some status }
  | [] => pure ()
  throw .exit

/-! ## Other programs and scripts -/

/-- Become a program. -/
def exec : Builtin := fun co words => do
  let (_, words) ← switches "" "" words
  if !words.isEmpty then Scene.become co (← get).searchPath words
  pure 0

/-- The path of a script that is to be read. -/
def scriptPath (name : String) : Scene String := do
  if Program.isPath name then pure name
  else
    let dirs := Program.directories (← get).searchPath
    let isFile (files : Files) (cwd : Place) (dir : String) : Bool :=
      match files.find cwd (Latin.octets (Program.within dir name)) with
      | .ok ⟨.plain _, _, _⟩ => true
      | _ => false
    match ← Scene.lift (Play.view fun files cwd => dirs.find? (isFile files cwd)) with
    | some dir => pure (Program.within dir name)
    | none => Scene.fail (name ++ ": not found")

/-- The content of a script; a directory has none. -/
def scriptText (path : String) : Scene String := do
  let fd ← Scene.openPath path .reading
  let read ← Scene.lift (Play.readAll fd)
  Scene.lift <| Play.change fun pid m => m.close pid fd
  pure (Latin.text (read.toOption.getD []))

/-- **Play a script in this one.** -/
def dot : Builtin := fun co words => do
  let (_, words) ← switches "" "" words
  match words with
  | [] => pure 0
  | name :: _ =>
    let path ← scriptPath name
    let text ← scriptText path
    modify fun sh => { sh with builtin := some path }
    match ← Scene.result (co.script .usual true text) with
    | .ok status => pure status
    | .error (.return_ _) => Scene.gets (·.status)
    | .error why => throw why

/-- Say what a name means; what `command` runs is played elsewhere. -/
def command : Builtin := fun _ words => do
  let (letters, words) ← switches "pvV" "" words
  let has (c : Char) : Bool := letters.any (·.1 == c)
  match words with
  | name :: _ =>
    if has 'v' || has 'V' then
      describe name (has 'V') (if has 'p' then some Shell.standardPath else none)
    else pure 0
  | [] => pure 0

/-! ## Texts and conditions -/

/-- Write words. -/
def echo : Builtin := fun _ words => do
  Scene.print (Printing.echoed words)
  pure 0

/-- Write words in a format. -/
def printf : Builtin := fun _ words => do
  let (_, words) ← switches "" "" words
  match words with
  | [] => Scene.fail "usage: printf format [arg ...]"
  | format :: words =>
    let filling := Printing.printed format words
    filling.warnings.reverse.forM Scene.warn
    match filling.fault with
    | some why => Scene.fail why
    | none =>
      Scene.print filling.text
      pure (if filling.warnings.isEmpty then 0 else 1)

/-- Whether a condition holds. -/
def holds (words : List String) : Scene Nat := do
  match ← Scene.lift (Play.view fun files cwd => Test.holds ⟨files, cwd⟩ words) with
  | .ok true => pure 0
  | .ok false => pure 1
  | .error why => Scene.fail why

/-- **Test a condition.** -/
def test : Builtin := fun _ words => holds words

/-- Test a condition in brackets. -/
def bracket : Builtin := fun _ words =>
  if (words.getLast?.getD "").toList.head? = some ']' then holds words.dropLast
  else Scene.fail "missing ]"

end NestedSession.Rehearsal.Builtin
