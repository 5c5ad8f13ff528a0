import NestedSession.Rehearsal.Program.Finding
import NestedSession.Rehearsal.Script.Scene

/-!
# Rehearsal/Script/Jobs — the processes of a script

A script starts processes of its own, some of which it waits for.  A process of the script begins
with the shell as it is, but for the traps, and ends with the status that its part of the script
leaves.  Whoever is waited for and ends by a signal is mourned in a message.
-/

namespace NestedSession.Rehearsal

/-- How a command is run. -/
structure Bearing where
  /-- Its failure is looked at. -/
  tested : Bool
  /-- Nothing comes after it in its process. -/
  isLast : Bool
  deriving DecidableEq, Repr

namespace Bearing

/-- Something comes after it, and nobody looks at its failure. -/
def usual : Bearing := ⟨false, false⟩

/-- Its failure is looked at. -/
def test : Bearing := ⟨true, false⟩

/-- The bearing of what a command consists of. -/
def inner (b : Bearing) : Bearing := ⟨b.tested, false⟩

end Bearing

/-- Who plays commands and programs. -/
structure Company where
  command : Bearing → Command → Scene Unit
  /-- Play a program by its name. -/
  program : String → Call → Play Nat
  /-- Play a text as a script of its own: the status of its last command, or zero.  A text that is
  read line by line can be shown as it is read. -/
  script : Bearing → Bool → String → Scene Nat

namespace Scene

/-! ## Signals -/

/-- What to do about a signal: ignore it, catch it, or neither. -/
def heedSignal (sig : Nat) (ignored caught : Bool) : Scene Unit := do
  if !(← get).deaf.contains sig then
    lift <| Play.change fun pid m => m.alter pid fun p =>
      let others (sigs : List Nat) : List Nat := sigs.filter (· != sig)
      { p with
        ignored := if ignored then sig :: others p.ignored else others p.ignored
        caught := if caught then sig :: others p.caught else others p.caught
        pending := others p.pending }

/-- The first signal that came and was caught, which is taken away. -/
def takeSignal : Scene (Option Nat) := lift <| Play.call fun pid m =>
  match (m.process? pid).bind (·.pending.min?) with
  | some sig =>
    (some sig, m.alter pid fun p => { p with pending := p.pending.filter (· != sig) })
  | none => (none, m)

/-- Do what is to be done on a signal.  The status is what it was before. -/
def heed (co : Company) (action : String) : Scene Unit := do
  let sh ← get
  let status := sh.earlier.getD sh.status
  set { sh with earlier := some status }
  let leave (said : Bool) : Scene Unit := modify fun now =>
    { now with earlier := sh.earlier, status := if said then now.status else status }
  match ← result (co.script .usual false action) with
  | .ok _ => leave false
  | .error why =>
    match why with
    | .return_ said => leave said
    | .break_ _ | .continue_ _ => leave false
    | .exit | .end_ | .fault => pure ()
    throw why

/-- **Do what is to be done on the signals that came.** -/
def heedSignals (co : Company) : Nat → Scene Unit
  | 0 => pure ()
  | fuel + 1 => do
    match ← takeSignal with
    | none => pure ()
    | some sig =>
      match (← get).traps.lookup sig with
      | some action => heed co action
      | none => pure ()
      heedSignals co fuel

/-! ## Ends -/

/-- **End the script**: what is to be done at its end is done, and the code is what is left. -/
def close (co : Company) : Scene Nat := do
  let sh ← get
  match sh.traps.lookup 0 with
  | none => pure sh.status
  | some action =>
    set { sh with
      traps := sh.traps.filter (·.1 != 0), loops := 0, builtin := none, earlier := some sh.status }
    match ← result (co.script .usual false action) with
    | .error .exit => gets fun now => now.earlier.getD now.status
    | .error .end_ | .error .fault => gets (·.status)
    | _ => pure sh.status

/-- The code that a scene ends a process with. -/
def toEnd (co : Company) (scene : Scene Unit) : Scene Nat := do
  match ← result scene with
  | .error .exit => modify fun sh => { sh with status := sh.earlier.getD sh.status }
  | _ => pure ()
  modify fun sh => { sh with written := [], earlier := none }
  close co

/-! ## Beginnings -/

/-- What a process of the script forgets. -/
def detach : Scene Unit := do
  let sh ← get
  let caught := sh.traps.filter fun (sig, action) => sig != 0 && !action.isEmpty
  caught.forM fun (sig, _) => heedSignal sig false false
  set { sh with
    traps := sh.traps.filter fun (sig, action) => sig != 0 && action.isEmpty
    jobs := []
    written := [] }

/-- What a process that is not waited for does about signals from the keyboard. -/
def stepBack : Scene Unit := do
  heedSignal 2 true false
  heedSignal 3 true false
  modify fun sh => { sh with deaf := [2, 3] ++ sh.deaf }

/-- Nothing to read. -/
def readNothing : Scene Unit := lift <| Play.change fun pid m =>
  let m := m.close pid 0
  (m.openFile pid (Latin.octets "/dev/null") .reading).2

/-- **Start a process of the script.** -/
def start (co : Company) (scene : Scene Unit) : Scene Pid :=
  fork <| toEnd co do
    detach
    scene

/-! ## Waiting -/

/-- What a message calls a signal. -/
def mourned (sig : Nat) : String :=
  ["Hangup", "Interrupt", "Quit", "Illegal instruction", "Trace/breakpoint trap", "Aborted",
    "Bus error", "Floating point exception", "Killed", "User defined signal 1",
    "Segmentation fault", "User defined signal 2", "Broken pipe", "Alarm clock", "Terminated",
    "Stack fault", "Child exited", "Continued", "Stopped (signal)", "Stopped",
    "Stopped (tty input)", "Stopped (tty output)", "Urgent I/O condition",
    "CPU time limit exceeded", "File size limit exceeded", "Virtual timer expired",
    "Profiling timer expired", "Window changed", "I/O possible", "Power failure",
    "Bad system call"].getD (sig - 1)
    (if 34 ≤ sig && sig ≤ 64 then "Real-time signal " ++ toString (sig - 34)
      else "Unknown signal " ++ toString sig)

/-- Note the status of a process. -/
def note (pid : Pid) (status : Int32) : Scene Unit := modify fun sh =>
  { sh with jobs := sh.jobs.map fun job =>
      { job with processes := job.processes.map fun (n, s) =>
          if n = pid && s.isNone then (n, some status) else (n, s) } }

/-- Whether all processes of a job have ended. -/
def isOver (job : Job) : Bool := job.processes.all (·.2.isSome)

/-- The code of a job: that of its last process. -/
def codeOfJob (job : Job) : Nat :=
  ((job.processes.getLast?.bind (·.2)).map codeOf).getD 0

/-- Let a status be noted, and say so if a process that was waited for ended by a signal. -/
def receive (pid : Pid) (status : Int32) (isWanted : Bool) : Scene Unit := do
  note pid status
  let sig := signalOf status
  if isWanted && sig != 0 && sig != 2 && sig != 13 then say 2 (mourned sig ++ "\n")

/-- The job that began with a process. -/
def jobOf? (sh : Shell) (pid : Pid) : Option Job :=
  sh.jobs.find? fun job => job.processes.any (·.1 == pid)

/-- Wait until the job of a process is over. -/
def awaitOn (pid : Pid) : Nat → Scene Nat
  | 0 => pure 0
  | fuel + 1 => do
    match jobOf? (← get) pid with
    | none => pure 0
    | some job =>
      if isOver job then pure (codeOfJob job)
      else
        match ← lift (Play.await fun self m => m.reap self none) with
        | none => pure (codeOfJob job)
        | some (n, status) =>
          receive n status (job.processes.any (·.1 == n))
          awaitOn pid fuel

/-- The first number from one on that no job has. -/
def freeNumber (jobs : List Job) : Nat → Nat → Nat
  | 0, n => n
  | fuel + 1, n => if jobs.any (·.number == n) then freeNumber jobs fuel (n + 1) else n

/-- Enter a job; one that is over, and of which this was told, is forgotten for it. -/
def enterJob (pids : List Pid) : Scene Unit := modify fun sh =>
  let lasting := sh.jobs.filter fun job => !(job.told && isOver job)
  let number := freeNumber lasting (lasting.length + 1) 1
  let kept := sh.jobs.filter fun job => job.number != number
  { sh with jobs := ⟨number, pids.map fun n => (n, none), false⟩ :: kept }

/-- **Wait for a job**, which is over then and forgotten: its code. -/
def await (pids : List Pid) : Scene Nat := do
  enterJob pids
  let pid := pids.headD 0
  let code ← awaitOn pid Play.rounds
  modify fun sh => { sh with jobs := sh.jobs.filter fun job => !job.processes.any (·.1 == pid) }
  pure code

/-- Keep a job that is not waited for. -/
def keepJob (pids : List Pid) : Scene Unit := do
  enterJob pids
  modify fun sh => { sh with lastJob := pids.getLast? }

/-- Take away what can be taken of the statuses of those that have ended. -/
def collect : Nat → Scene Unit
  | 0 => pure ()
  | fuel + 1 => do
    if (← get).jobs.all isOver then pure ()
    else
      match ← lift (Play.call fun self m => (m.reap self none).getD (none, m)) with
      | none => pure ()
      | some (n, status) =>
        note n status
        collect fuel

end Scene

end NestedSession.Rehearsal
