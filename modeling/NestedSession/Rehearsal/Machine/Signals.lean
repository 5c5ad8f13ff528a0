import NestedSession.Rehearsal.Machine.Basic

/-!
# Rehearsal/Machine/Signals — how processes begin and end

A process begins as a copy of the one that starts it.  It ends by itself or by a signal; what is
left of it is a status, which the process that started it takes away.  Those it leaves behind are
waited for by nobody.
-/

namespace NestedSession.Rehearsal.Machine

/-- The process that takes away what nobody waits for. -/
def nobody : Pid := 1

/-- **Begin a process** as a copy of another. -/
def begin (m : Machine) (pid : Pid) : Pid × Machine :=
  match m.process? pid with
  | none => (m.nextPid, m)
  | some p =>
    let child := { p with parent := pid, pending := [], wakes := none }
    (m.nextPid, { m with
      processes := m.processes ++ [(m.nextPid, child)]
      nextPid := m.nextPid + 1 })

/-- The signal that tells of the end of a child. -/
def childSignal : Nat := 17

/-- **The end of a process**, of which the process that started it is told. -/
def finish (m : Machine) (pid : Pid) (status : Int32) : Machine :=
  let parent := ((m.process? pid).map (·.parent)).getD nobody
  let orphaned := m.processes.map fun (n, p) =>
    if n = pid then
      (n, { p with status := some status, descriptors := [], reserved := [], wakes := none })
    else if n = parent && p.caught.contains childSignal && !p.pending.contains childSignal then
      (n, { p with pending := p.pending ++ [childSignal] })
    else if p.parent = pid then (n, { p with parent := nobody })
    else (n, p)
  tidy { m with processes := orphaned.filter fun (_, p) =>
    p.status.isNone || p.parent != nobody }

/-- What a signal does to a process that does nothing about it. -/
inductive Effect where
  | nothing
  | stop
  | goOn
  | end_
  deriving DecidableEq, Repr

/-- The effect of a signal. -/
def effectOf (sig : Nat) : Effect :=
  if [0, 17, 23, 28].contains sig then .nothing
  else if [19, 20, 21, 22].contains sig then .stop
  else if sig = 18 then .goOn
  else .end_

/-- **Send a signal to a process**, which may ignore it or catch it; two signals it can neither
ignore nor catch. -/
def send (m : Machine) (pid : Pid) (sig : Nat) : Machine :=
  match m.process? pid with
  | none => m
  | some p =>
    if p.status.isSome then m
    else if sig = Signal.kill.number then m.finish pid (signalStatus sig)
    else if sig = 18 then
      let woken := { p with
        stopped := false
        held := []
        pending := if p.caught.contains sig then p.pending ++ [sig] else p.pending }
      let m := m.alter pid fun _ => woken
      p.held.foldl (fun m sig =>
        match m.process? pid with
        | none => m
        | some p =>
          if p.status.isSome || p.ignored.contains sig then m
          else if p.caught.contains sig then
            m.alter pid fun p => { p with pending := p.pending ++ [sig] }
          else if effectOf sig = .end_ then m.finish pid (signalStatus sig)
          else m) m
    else if sig != 19 && p.ignored.contains sig then m
    else if sig != 19 && p.stopped then m.alter pid fun p => { p with held := p.held ++ [sig] }
    else if sig != 19 && p.caught.contains sig then
      if p.pending.contains sig then m
      else m.alter pid fun p => { p with pending := p.pending ++ [sig] }
    else match effectOf sig with
      | .nothing | .goOn => m
      | .stop => m.alter pid fun p => { p with stopped := true }
      | .end_ => m.finish pid (signalStatus sig)

/-- The processes that a target of a signal means: one, or a group. -/
def targets (m : Machine) (pid : Pid) (target : Int) : List Pid :=
  let own := ((m.process? pid).map (·.group)).getD 0
  let group := if target = 0 then own.toNat else target.natAbs
  if 0 < target then
    (m.processes.map (·.1)).filter fun n => n.toNat = target.natAbs
  else
    (m.processes.filter fun (_, p) => p.group.toNat = group).map (·.1)

/-- **Send a signal to what a number means.** -/
def kill (m : Machine) (pid : Pid) (target : Int) (sig : Nat) : Except Errno Unit × Machine :=
  match m.targets pid target with
  | [] => (.error .noProcess, m)
  | ns =>
    let others := ns.filter (· != pid)
    let self := ns.filter (· == pid)
    (.ok (), (others ++ self).foldl (fun m n => m.send n sig) m)

/-- **Take away the status of a child that has ended**, if one has; of one child, or of any. -/
def reap (m : Machine) (pid : Pid) (child : Option Pid) :
    Option (Option (Pid × Int32) × Machine) :=
  let children := m.processes.filter fun (n, p) => p.parent = pid && child.all (· == n)
  if children.isEmpty then some (none, m)
  else children.findSome? fun (n, p) => p.status.map fun status =>
    (some (n, status), { m with processes := m.processes.filter (·.1 != n) })

end NestedSession.Rehearsal.Machine
