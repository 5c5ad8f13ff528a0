import NestedSession.Rehearsal.Script.Shell

/-!
# Rehearsal/Script/Scene — parts of a script as they are played

A scene sees and changes the shell, may ask the machine, and may be left before its end: by a jump
out of a loop, a return, the end of the script, or a fault (`Leave`).
-/

namespace NestedSession.Rehearsal

/-- Why a scene is left before its end. -/
inductive Leave where
  /-- So many loops are over. -/
  | break_ (levels : Nat)
  /-- The loop so many levels out goes on. -/
  | continue_ (levels : Nat)
  /-- The function is over, with a status that was `said` or with the one there is. -/
  | return_ (said : Bool)
  /-- The script ends as it was told to. -/
  | exit
  /-- The script ends because of the status it has. -/
  | end_
  /-- Something is wrong, and it has been said what. -/
  | fault
  deriving DecidableEq, Repr

/-- **A part of a script as it is played.** -/
def Scene (α : Type) : Type := Shell → (Except Leave α → Shell → Role) → Role

namespace Scene

instance : Monad Scene where
  pure a := fun sh next => next (.ok a) sh
  bind scene rest := fun sh next => scene sh fun result sh =>
    match result with
    | .ok a => rest a sh next
    | .error why => next (.error why) sh

instance : MonadStateOf Shell Scene where
  get := fun sh next => next (.ok sh) sh
  set sh := fun _ next => next (.ok ()) sh
  modifyGet f := fun sh next => let (a, sh) := f sh; next (.ok a) sh

instance : MonadExceptOf Leave Scene where
  throw why := fun sh next => next (.error why) sh
  tryCatch scene handle := fun sh next => scene sh fun result sh =>
    match result with
    | .ok a => next (.ok a) sh
    | .error why => handle why sh next

/-- Ask the machine. -/
def lift {α : Type} (play : Play α) : Scene α := fun sh next => play fun a => next (.ok a) sh

instance : MonadLift Play Scene := ⟨lift⟩

/-- How a scene ends. -/
def result {α : Type} (scene : Scene α) : Scene (Except Leave α) := fun sh next =>
  scene sh fun result sh => next (.ok result) sh

/-- **Do something after a scene**, however it ends. -/
def finally_ {α : Type} (scene : Scene α) (after : Scene Unit) : Scene α := fun sh next =>
  scene sh fun result sh => after sh fun
    | .ok () => next result
    | .error why => next (.error why)

/-- Play a scene in a process of its own, which ends with the code that is left. -/
def fork (scene : Scene Nat) : Scene Pid := fun sh next =>
  .fork (scene sh fun result sh => .done (match result with
    | .ok code => code
    | .error _ => sh.status)) fun pid => next (.ok pid) sh

/-- End the process. -/
def exit {α : Type} (code : Nat) : Scene α := lift (Play.exit code)

/-- Something of the shell. -/
def gets {α : Type} (f : Shell → α) : Scene α := do
  pure (f (← get))

/-- Set the status. -/
def setStatus (status : Nat) : Scene Unit := modify fun sh => { sh with status }

/-- Write a text at once; faults are passed over. -/
def say (fd : Nat) (text : String) : Scene Unit := do
  let _ ← lift (Play.write fd (Latin.octets text))
  pure ()

/-- **Say what is wrong**: the script, the line, and the builtin at work come first. -/
def warn (text : String) : Scene Unit := do
  let sh ← get
  let place := match sh.builtin with
    | some name => sh.name ++ ": " ++ toString sh.line ++ ": " ++ name ++ ": "
    | none => sh.name ++ ": " ++ toString sh.line ++ ": "
  say 2 (place ++ text ++ "\n")

/-- **Say what is wrong and give up.** -/
def fail {α : Type} (text : String) : Scene α := do
  warn text
  setStatus 2
  throw .fault

/-- Write a text when the builtin at work is over. -/
def print (text : String) : Scene Unit := modify fun sh => { sh with written := text :: sh.written }

/-- **Write what the builtin at work has to write.** -/
def flush : Scene Bool := do
  let sh ← get
  if sh.written.isEmpty then pure true
  else
    set { sh with written := [] }
    match ← lift (Play.write 1 (sh.written.reverse.flatMap Latin.octets)) with
    | .ok () => pure true
    | .error _ => pure false

/-- Give a variable a value, if it can be changed. -/
def assign (name value : String) : Scene Unit := do
  if (← get).isFixed name then fail (name ++ ": is read only")
  else modify fun sh => sh.set name value

end Scene

end NestedSession.Rehearsal
