import NestedSession.Proofs.System.Noting

/-!
# Proofs/System/Marking — a host that remembers whether it failed

A host may refuse what it is asked for.  One that answers as another and remembers whether a call
failed (`Marked`) leads every session the same way, from its start on (`Marked.echoes`), and once it
is marked it stays so (`Marked.keeps`).  What merely makes the end of a session rougher is no
failure here: signals that do not arrive, waits in vain, files that are not written or removed.
-/

namespace NestedSession

/-- **One host seen through another**, with the requests that the start of a session makes too. -/
structure Host.Echoes {ω' ω : Type} [Host ω'] [Host ω] (f : ω' → ω) : Prop
    extends Host.Mirrors f where
  makeWorkDir : ∀ w dir name,
    Disk.makeWorkDir (f w) dir name = Prod.map id f (Disk.makeWorkDir w dir name)
  spawn : ∀ w call, Host.spawn (f w) call = Prod.map id f (Host.spawn w call)
  unblock : ∀ w pid s, Host.unblock (f w) pid s = Prod.map id f (Host.unblock w pid s)

/-- Taking notes changes nothing when a session starts, either. -/
theorem Noted.echoes {ω : Type} [Host ω] : Host.Echoes (Noted.host (ω := ω)) where
  toMirrors := Noted.mirrors
  makeWorkDir _ _ _ := rfl
  spawn _ _ := rfl
  unblock _ _ _ := rfl

/-- **What no request changes** that the end of a session makes. -/
structure Host.Keeps {ω : Type} [Host ω] (P : ω → Prop) : Prop where
  makeDirs : ∀ w path, P w → P (Disk.makeDirs w path).2
  replace : ∀ w path bs, P w → P (Disk.replace w path bs).2
  removeTree : ∀ w path, P w → P (Disk.removeTree w path).2
  leave : ∀ w pid s rest, P w → P (Host.leave w pid s rest)
  tryWait : ∀ w pid, P w → P (Host.tryWait w pid).2
  wait : ∀ w pid, P w → P (Host.wait w pid).2
  kill : ∀ w pid sent, P w → P (Host.kill w pid sent).2
  pause : ∀ w span, P w → P (Host.pause w span)

/-- **A host that remembers** whether a session could not get what it needs: a work directory, a
child, an output that can be read without waiting, a read, or an answer whether the child has
ended. -/
structure Marked (ω : Type) where
  host : ω
  failed : Bool

namespace Marked

variable {ω : Type} {ε α : Type}

/-- Nothing failed yet. -/
def blank (w : ω) : Marked ω := ⟨w, false⟩

/-- An answer, marked if it is a failure. -/
def mark (n : Marked ω) (r : Except ε α × ω) : Except ε α × Marked ω :=
  (r.1, ⟨r.2, n.failed || !r.1.isOk⟩)

/-- An answer that is not marked. -/
def pass (n : Marked ω) (r : α × ω) : α × Marked ω := (r.1, ⟨r.2, n.failed⟩)

theorem failed_mark {n : Marked ω} {r : Except ε α × ω} {e : ε}
    (failed : (n.mark r).1 = .error e) : (n.mark r).2.failed = true := by
  have answer : r.1 = .error e := failed
  simp [mark, answer, Except.isOk, Except.toBool]

theorem failed_mark_of_failed {n : Marked ω} (failed : n.failed = true) (r : Except ε α × ω) :
    (n.mark r).2.failed = true := by
  simp [mark, failed]

variable [Host ω]

/-- **A host that remembers**, and answers as the one it is made of. -/
instance : Host (Marked ω) where
  content n := Disk.content n.host
  makeDirs n path := n.pass (Disk.makeDirs n.host path)
  replace n path bs := n.pass (Disk.replace n.host path bs)
  makeWorkDir n dir name := n.mark (Disk.makeWorkDir n.host dir name)
  removeTree n path := n.pass (Disk.removeTree n.host path)
  spawn n call := n.mark (Host.spawn n.host call)
  unblock n pid s := n.mark (Host.unblock n.host pid s)
  unread n := Host.unread n.host
  leave n pid s rest :=
    ⟨Host.leave n.host pid s rest,
      n.failed || !(faultsRead (Host.unread n.host pid s) rest).isEmpty⟩
  tryWait n pid := n.mark (Host.tryWait n.host pid)
  wait n pid := n.pass (Host.wait n.host pid)
  kill n pid sent := n.pass (Host.kill n.host pid sent)
  now n := Host.now n.host
  pause n span := ⟨Host.pause n.host span, n.failed⟩

/-- Remembering changes nothing. -/
theorem echoes : Host.Echoes (Marked.host (ω := ω)) where
  makeDirs _ _ := rfl
  replace _ _ _ := rfl
  makeWorkDir _ _ _ := rfl
  removeTree _ _ := rfl
  spawn _ _ := rfl
  unblock _ _ _ := rfl
  unread _ _ _ := rfl
  leave _ _ _ _ := rfl
  tryWait _ _ := rfl
  wait _ _ := rfl
  kill _ _ _ := rfl
  now _ := rfl
  pause _ _ := rfl

/-- **A mark stays.** -/
theorem keeps : Host.Keeps fun n : Marked ω => n.failed = true where
  makeDirs _ _ failed := failed
  replace _ _ _ failed := failed
  removeTree _ _ failed := failed
  leave _ _ _ _ failed := Bool.or_eq_true_iff.mpr (.inl failed)
  tryWait _ _ failed := failed_mark_of_failed failed _
  wait _ _ failed := failed
  kill _ _ _ failed := failed
  pause _ _ failed := failed

/-- A read that fails is marked. -/
theorem failed_leave {n : Marked ω} {pid : Pid} {s : Stream} {rest : List Piece}
    (read : faultsRead (Host.unread n pid s) rest ≠ []) :
    (Host.leave n pid s rest).failed = true := by
  have some : (faultsRead (Host.unread n.host pid s) rest).isEmpty = false :=
    List.isEmpty_eq_false_iff.mpr read
  simp [Host.leave, some]

end Marked

end NestedSession
