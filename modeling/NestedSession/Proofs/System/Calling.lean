import NestedSession.Proofs.System.Marking

/-!
# Proofs/System/Calling — a host that writes down its calls about processes

The number of a process is its own until its status is collected; from then on it may be given to
another.  A host that answers as another and writes down every call about a process with its answer
(`Called`) leads every session the same way (`Called.echoes`), and its calls say whether a number
was used when it was free already (`Orderly`).
-/

namespace NestedSession

/-- A call about a process, and its answer. -/
inductive Call where
  /-- It was asked whether it has ended. -/
  | asked (pid : Pid) (answer : Except Fault (Option Int32))
  /-- It was waited for. -/
  | waited (pid : Pid) (answer : Except Fault Int32)
  /-- It was sent a signal. -/
  | signalled (pid : Pid) (sent : Signal) (answer : Except Errno Unit)

namespace Call

/-- The process that a call is about. -/
def pid : Call → Pid
  | asked pid _ | waited pid _ | signalled pid _ _ => pid

/-- **The status that a call collected**, if it collected one. -/
def collected? : Call → Option Int32
  | asked _ answer => answer.toOption.join
  | waited _ answer => answer.toOption
  | signalled _ _ _ => none

end Call

/-- **Calls about one process, the last first, none of them behind one that collected its
status.** -/
structure Orderly (pid : Pid) (calls : List Call) : Prop where
  about : ∀ call ∈ calls, call.pid = pid
  uncollected : calls.Pairwise fun _ earlier => earlier.collected? = none

/-- **A host that writes down its calls about processes**, the last first. -/
structure Called (ω : Type) where
  host : ω
  calls : List Call

namespace Called

variable {ω : Type}

/-- No calls yet. -/
def blank (w : ω) : Called ω := ⟨w, []⟩

/-- Whatever happens in the world, none of it is a call of the session's. -/
def Idle (n n' : Called ω) : Prop := n'.calls = n.calls

/-- An answer that leaves nothing to write down. -/
def pass {α : Type} (n : Called ω) (r : α × ω) : α × Called ω := (r.1, ⟨r.2, n.calls⟩)

/-- An answer, and the call that is written down. -/
def enter {α : Type} (n : Called ω) (call : α → Call) (r : α × ω) : α × Called ω :=
  (r.1, ⟨r.2, call r.1 :: n.calls⟩)

variable [Host ω]

/-- **A host that writes down its calls**, and answers as the one it is made of. -/
instance : Host (Called ω) where
  content n := Disk.content n.host
  makeDirs n path := n.pass (Disk.makeDirs n.host path)
  replace n path bs := n.pass (Disk.replace n.host path bs)
  makeWorkDir n dir name := n.pass (Disk.makeWorkDir n.host dir name)
  removeTree n path := n.pass (Disk.removeTree n.host path)
  spawn n call := n.pass (Host.spawn n.host call)
  unblock n pid s := n.pass (Host.unblock n.host pid s)
  unread n := Host.unread n.host
  leave n pid s rest := ⟨Host.leave n.host pid s rest, n.calls⟩
  tryWait n pid := n.enter (Call.asked pid) (Host.tryWait n.host pid)
  wait n pid := n.enter (Call.waited pid) (Host.wait n.host pid)
  kill n pid sent := n.enter (Call.signalled pid sent) (Host.kill n.host pid sent)
  now n := Host.now n.host
  pause n span := ⟨Host.pause n.host span, n.calls⟩

/-- Writing down changes nothing. -/
theorem echoes : Host.Echoes (Called.host (ω := ω)) where
  makeDirs _ _ := rfl
  replace _ _ _ := rfl
  makeWorkDir _ _ _ := rfl
  removeTree _ _ := rfl
  spawn _ _ := rfl
  unblock _ _ _ := rfl
  unread _ _ _ := rfl
  leave _ _ _ _ := rfl
  tryWait _ _ := rfl
  wait _ _ := rfl
  kill _ _ _ := rfl
  now _ := rfl
  pause _ _ := rfl

/-! ## What is written down -/

theorem calls_tryWait (n : Called ω) (pid : Pid) :
    (Host.tryWait n pid).2.calls = .asked pid (Host.tryWait n pid).1 :: n.calls := rfl

theorem calls_wait (n : Called ω) (pid : Pid) :
    (Host.wait n pid).2.calls = .waited pid (Host.wait n pid).1 :: n.calls := rfl

theorem calls_kill (n : Called ω) (pid : Pid) (sent : Signal) :
    (Host.kill n pid sent).2.calls = .signalled pid sent (Host.kill n pid sent).1 :: n.calls := rfl

end Called

end NestedSession
