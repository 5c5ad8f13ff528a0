import NestedSession.Rehearsal.Role

/-!
# Rehearsal/Stage — how the processes of a machine go on

A stage is a machine with the roles of its processes.  Each process in turn goes on for a while or
until it has to wait; what takes no time is done before the clock goes on, and then it goes on to
the first sleeper that wakes (`Stage.advance`).  The steps it may make are bounded, so that a
process that never sleeps cannot hold it up.
-/

namespace NestedSession.Rehearsal

/-- A machine with the roles of its processes. -/
structure Stage where
  machine : Machine
  /-- The roles in the order in which they go on. -/
  roles : List (Pid × Role)
  /-- The directory of those outside. -/
  cwd : Place
  /-- How many work directories were made. -/
  made : Nat

/-- How a turn went. -/
structure Turn where
  machine : Machine
  /-- What is left of the role. -/
  role : Option Role
  /-- The roles that were begun, the latest first. -/
  born : List (Pid × Role)
  /-- How many steps were not needed. -/
  left : Nat
  /-- Whether anything was done. -/
  moved : Bool

namespace Stage

/-- The files of a stage. -/
def files (st : Stage) : Files := st.machine.files

/-- The steps of one turn. -/
def turnLength : Nat := 200

/-- **One turn of a process**, of so many steps or until it has to wait. -/
def turn (pid : Pid) : Nat → Role → Machine → List (Pid × Role) → Bool → Turn
  | 0, role, m, born, moved => ⟨m, some role, born, 0, moved⟩
  | steps + 1, .done code, m, born, _ =>
    ⟨m.finish pid (exitStatus code), none, born, steps, true⟩
  | steps + 1, .fork child rest, m, born, _ =>
    let (n, m) := m.begin pid
    turn pid steps (rest n) m ((n, child) :: born) true
  | steps + 1, .act ask, m, born, moved =>
    match ask pid m with
    | none => ⟨m, some (.act ask), born, steps, moved⟩
    | some (m, role) =>
      match m.process? pid with
      | none => ⟨m, none, born, steps, true⟩
      | some p =>
        if p.status.isSome then ⟨m, none, born, steps, true⟩
        else if p.stopped then ⟨m, some role, born, steps, true⟩
        else turn pid steps role m born true

/-- The state of a round: the machine, the roles that had their turn, the latest first, those that
were begun, the steps left, and whether anything was done. -/
structure Round where
  machine : Machine
  done : List (Pid × Role)
  steps : Nat
  moved : Bool

/-- Give one process its turn. -/
def Round.take (r : Round) (pid : Pid) (role : Role) : Round :=
  match r.machine.process? pid with
  | none => { r with moved := true }
  | some p =>
    if p.status.isSome then { r with moved := true }
    else if p.stopped then { r with done := (pid, role) :: r.done }
    else
      let t := turn pid (min turnLength r.steps) role r.machine [] false
      let kept := match t.role with
        | some role => (pid, role) :: r.done
        | none => r.done
      { machine := t.machine
        done := t.born ++ kept
        steps := r.steps - (min turnLength r.steps - t.left)
        moved := r.moved || t.moved }

/-- **Give every process its turn.** -/
def round (st : Stage) (steps : Nat) : Stage × Nat × Bool :=
  let first : Round := ⟨st.machine, [], steps, false⟩
  let r := st.roles.foldl (fun (r : Round) (pid, role) => r.take pid role) first
  ({ st with machine := r.machine, roles := r.done.reverse }, r.steps, r.moved)

/-- The time at which the first sleeper wakes. -/
def nextWaking? (m : Machine) : Option Nat :=
  m.processes.foldl (fun found (_, p) =>
    match p.wakes, found with
    | some t, some u => some (min t u)
    | some t, none => if p.stopped then none else some t
    | none, found => found) none

/-- Set the clock. -/
def setClock (st : Stage) (time : Nat) : Stage :=
  { st with machine := { st.machine with
      files := { st.machine.files with clock := max st.machine.files.clock time } } }

/-- **Go on until a time**, with at most so many steps. -/
def playUntil (time : Nat) : Nat → Nat → Stage → Stage
  | 0, _, st => st.setClock time
  | rounds + 1, steps, st =>
    if steps = 0 then st.setClock time
    else
      let (st, steps, moved) := st.round steps
      if moved then playUntil time rounds steps st
      else match nextWaking? st.machine with
        | some t =>
          if t ≤ time && st.machine.files.clock < t then
            playUntil time rounds steps (st.setClock t)
          else st.setClock time
        | none => st.setClock time

/-- The most steps that are made while no time passes. -/
def promptSteps : Nat := 300000

/-- The most steps that are made in a span: about one in each microsecond. -/
def stepsIn (span : Nat) : Nat :=
  if span = 0 then promptSteps else 2000 + min span 10000000000 / 1000

/-- **Let time pass.** -/
def advance (st : Stage) (span : Nat) : Stage :=
  playUntil (st.machine.files.clock + span) (stepsIn span) (stepsIn span) st

end Stage

end NestedSession.Rehearsal
