import NestedSession.Proofs.System.Marking

/-!
# Proofs/System/Booking — a host that keeps books

What a session takes from its host it has to give back: its work directory and its child.  A host
that answers as another and enters what is taken and given back (`Booked`) leads every session the
same way (`Booked.echoes`).  Its ledger says it all, in order: which directories were made and which
are gone, which processes were started and which were reaped — and what was asked for in vain.
-/

namespace NestedSession

/-- An entry in the books. -/
inductive Entry where
  /-- A directory was made. -/
  | made (dir : Path)
  /-- A process was started. -/
  | started (pid : Pid)
  /-- The body of a scenario was called. -/
  | called
  /-- The end of a process was told, which is done once: its number is free again. -/
  | reaped (pid : Pid)
  /-- Waiting for the end of a process failed. -/
  | lost (pid : Pid)
  /-- A directory is gone, with all below it. -/
  | removed (dir : Path)
  /-- A directory could not be removed. -/
  | kept (dir : Path)
  deriving DecidableEq, Repr

/-- What was asked for in vain. -/
def Entry.isFailure : Entry → Bool
  | lost _ | kept _ => true
  | _ => false

/-- **A host that keeps books**, the last entry first. -/
structure Booked (ω : Type) where
  host : ω
  ledger : List Entry

namespace Booked

variable {ω : Type}

/-- Nothing is entered yet. -/
def blank (w : ω) : Booked ω := ⟨w, []⟩

/-- An answer, with what is entered about it. -/
def enter {α : Type} (n : Booked ω) (r : α × ω) (entries : List Entry) : α × Booked ω :=
  (r.1, ⟨r.2, entries ++ n.ledger⟩)

/-- **Nothing was asked for in vain** that has to be given back. -/
def Unfailing (n : Booked ω) : Prop := ∀ e ∈ n.ledger, e.isFailure = false

/-- Books without a failure had none before. -/
theorem Unfailing.of_cons {n n' : Booked ω} {e : Entry} (h : n'.Unfailing)
    (entered : n'.ledger = e :: n.ledger) : e.isFailure = false ∧ n.Unfailing :=
  ⟨h e (entered ▸ List.mem_cons_self), fun e' old => h e' (entered ▸ List.mem_cons_of_mem _ old)⟩

/-- The entry on an attempt to remove a directory. -/
def removal (path : Path) : Except Fault Unit → Entry
  | .ok _ => .removed path
  | .error _ => .kept path

/-- The entry on a wait for the end of a process. -/
def reaping (pid : Pid) : Except Fault Int32 → Entry
  | .ok _ => .reaped pid
  | .error _ => .lost pid

variable [Host ω]

/-- **A host that keeps books**, and answers as the one it is made of. -/
instance : Host (Booked ω) where
  content n := Disk.content n.host
  makeDirs n path := n.enter (Disk.makeDirs n.host path) []
  replace n path bs := n.enter (Disk.replace n.host path bs) []
  makeWorkDir n dir name :=
    let r := Disk.makeWorkDir n.host dir name
    n.enter r (r.1.toOption.map Entry.made).toList
  removeTree n path :=
    let r := Disk.removeTree n.host path
    n.enter r [removal path r.1]
  spawn n call :=
    let r := Host.spawn n.host call
    n.enter r (r.1.toOption.map Entry.started).toList
  unblock n pid s := n.enter (Host.unblock n.host pid s) []
  unread n := Host.unread n.host
  leave n pid s rest := ⟨Host.leave n.host pid s rest, n.ledger⟩
  tryWait n pid :=
    let r := Host.tryWait n.host pid
    n.enter r (r.1.toOption.join.map fun _ => Entry.reaped pid).toList
  wait n pid :=
    let r := Host.wait n.host pid
    n.enter r [reaping pid r.1]
  kill n pid sent := n.enter (Host.kill n.host pid sent) []
  now n := Host.now n.host
  pause n span := ⟨Host.pause n.host span, n.ledger⟩

/-- Keeping books changes nothing. -/
theorem echoes : Host.Echoes (Booked.host (ω := ω)) where
  makeDirs _ _ := rfl
  replace _ _ _ := rfl
  makeWorkDir _ _ _ := rfl
  removeTree _ _ := rfl
  spawn _ _ := rfl
  unblock _ _ _ := rfl
  unread _ _ _ := rfl
  leave _ _ _ _ := rfl
  tryWait _ _ := rfl
  wait _ _ := rfl
  kill _ _ _ := rfl
  now _ := rfl
  pause _ _ := rfl

/-! ## What is entered -/

theorem ledger_makeWorkDir (n : Booked ω) (dir : Path) (name : String) :
    (Disk.makeWorkDir n dir name).2.ledger
      = ((Disk.makeWorkDir n dir name).1.toOption.map Entry.made).toList ++ n.ledger := rfl

theorem ledger_removeTree (n : Booked ω) (path : Path) :
    (Disk.removeTree n path).2.ledger = removal path (Disk.removeTree n path).1 :: n.ledger := rfl

theorem ledger_spawn (n : Booked ω) (call : Invocation) :
    (Host.spawn n call).2.ledger
      = ((Host.spawn n call).1.toOption.map Entry.started).toList ++ n.ledger := rfl

theorem ledger_tryWait (n : Booked ω) (pid : Pid) :
    (Host.tryWait n pid).2.ledger
      = ((Host.tryWait n pid).1.toOption.join.map fun _ => Entry.reaped pid).toList
        ++ n.ledger := rfl

theorem ledger_wait (n : Booked ω) (pid : Pid) :
    (Host.wait n pid).2.ledger = reaping pid (Host.wait n pid).1 :: n.ledger := rfl

end Booked

end NestedSession
