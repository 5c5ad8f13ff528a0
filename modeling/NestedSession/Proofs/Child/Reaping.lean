import NestedSession.Proofs.Child.Steps
import NestedSession.Proofs.Session.Course
import NestedSession.Proofs.System.Booking

/-!
# Proofs/Child/Reaping — a child is reaped once

The end of a child is told once, and from then on it is known.  So on a host that keeps books the
end is entered exactly if it is known (`Watched.Entered`), and nothing that is asked while the child
is watched changes that.  When the child is ended it is entered at last, or the final wait was in
vain (`Watched.Entered.terminate`); and a child that did not start, but was begun, was waited for
too (`Child.ledger_of_start_error`).
-/

namespace NestedSession

variable {ω : Type}

namespace Watched

/-- **A child whose end is entered exactly if it is known**, on top of what was entered before. -/
inductive Entered (pid : Pid) (before : List Entry) (a : Watched (Booked ω)) : Prop
  /-- No end is known. -/
  | alive (number : a.child.pid = pid) (unknown : a.child.exit = none)
      (ledger : a.host.ledger = before)
  /-- It is known how it ended, and it was reaped. -/
  | ended {exit : Exit} (number : a.child.pid = pid) (known : a.child.exit = some exit)
      (ledger : a.host.ledger = .reaped pid :: before)

namespace Entered

variable {pid : Pid} {before : List Entry} {a : Watched (Booked ω)}

/-- Of a child whose end is not known, nothing is entered yet. -/
theorem of_unknown (h : a.Entered pid before) (unknown : a.child.exit = none) :
    a.child.pid = pid ∧ a.host.ledger = before := by
  cases h with
  | alive number _ ledger => exact ⟨number, ledger⟩
  | ended _ known => nomatch known.symm.trans unknown

/-- A child whose end is known was reaped. -/
theorem ledger_of_known (h : a.Entered pid before) {exit : Exit}
    (known : a.child.exit = some exit) : a.host.ledger = .reaped pid :: before := by
  cases h with
  | alive _ unknown => nomatch unknown.symm.trans known
  | ended _ _ ledger => exact ledger

/-- A request that nothing is entered about. -/
theorem withHost (h : a.Entered pid before) {n : Booked ω} (same : n.ledger = a.host.ledger) :
    (a.withHost n).Entered pid before := by
  cases h with
  | alive number unknown ledger => exact .alive number unknown (same.trans ledger)
  | ended number known ledger => exact .ended number known (same.trans ledger)

variable [Host ω]

/-- **Asked for its end**, which is entered if it is told. -/
theorem tryExit (h : a.Entered pid before) : a.tryExit.2.Entered pid before := by
  rcases a.tryExit_cases with ⟨_, -, eq⟩
    | ⟨unknown, ⟨_, told, eq⟩ | ⟨told, eq⟩ | ⟨status, told, eq⟩⟩
  all_goals rw [eq]
  · exact h
  all_goals
    obtain ⟨number, ledger⟩ := h.of_unknown unknown
    have entered := a.host.ledger_tryWait a.child.pid
    rw [told, ledger] at entered
  · exact .alive number unknown entered
  · exact .alive number unknown entered
  · exact .ended number rfl (number ▸ entered)

/-- Reading enters nothing. -/
theorem pump (h : a.Entered pid before) : a.pump.2.Entered pid before := by
  refine pump_keeps (P := fun b => b.Entered pid before) (fun _ s h => ?_) h
  refine pumpStream_keeps (P := fun b => b.Entered pid before) (fun b s h => ?_)
    (fun b s h => ?_) h s
  · cases h with
    | alive number unknown ledger => exact .alive number unknown ledger
    | ended number known ledger => exact .ended number known ledger
  · have number := b.child.pid_shut s
    have exit := b.child.exit_shut s
    cases h with
    | alive same unknown ledger => exact .alive (number.trans same) (exit.trans unknown) ledger
    | ended same known ledger => exact .ended (number.trans same) (exit.trans known) ledger

theorem signal (h : a.Entered pid before) (sent : Signal) :
    (a.signal sent).2.Entered pid before := by
  rcases a.signal_cases sent with eq | ⟨-, eq⟩ <;> rw [eq]
  · exact h.tryExit
  · exact h.tryExit.withHost rfl

/-- **Waited for**: its end is known and entered, or the wait was in vain. -/
theorem wait (h : a.Entered pid before) :
    a.wait.2.host.ledger = .reaped pid :: before ∨ a.wait.2.host.ledger = .lost pid :: before := by
  rcases a.wait_cases with ⟨_, known, eq⟩ | ⟨unknown, ⟨_, told, eq⟩ | ⟨_, told, eq⟩⟩
  all_goals rw [eq]
  · exact .inl (h.ledger_of_known known)
  all_goals
    obtain ⟨number, ledger⟩ := h.of_unknown unknown
    have entered := a.host.ledger_wait a.child.pid
    rw [told, ledger] at entered
  · exact .inr (entered.trans (congrArg (Entry.lost · :: before) number))
  · exact .inl (entered.trans (congrArg (Entry.reaped · :: before) number))

end Entered

variable [Host ω]

/-- **Whatever is asked of a child while it is watched**, its end is entered exactly if it is
known. -/
theorem keeps_entered (pid : Pid) (before : List Entry) :
    Keeps fun a : Watched (Booked ω) => a.Entered pid before where
  tryExit _ h := h.tryExit
  pump _ h := h.pump
  pause _ _ h := h.withHost rfl

/-- Reading enters nothing. -/
theorem ledger_pump (a : Watched (Booked ω)) : a.pump.2.host.ledger = a.host.ledger :=
  pump_keeps (P := fun b : Watched (Booked ω) => b.host.ledger = a.host.ledger)
    (fun _ s same =>
      pumpStream_keeps (P := fun b : Watched (Booked ω) => b.host.ledger = a.host.ledger)
        (fun _ _ same => same) (fun _ _ same => same) same s) rfl

/-- **A child that is ended is reaped**, and that is entered once; or the final wait for it was in
vain. -/
theorem Entered.terminate {pid : Pid} {before : List Entry} {a b : Watched (Booked ω)}
    (h : a.Entered pid before) {grace : Span} {answer : Option Exit × Bool}
    (ended : a.terminate grace = some (answer, b)) :
    b.host.ledger = .reaped pid :: before ∨ b.host.ledger = .lost pid :: before := by
  have awaited (deadline : Moment) :
      ((a.signal .term).2.awaitEnd deadline grace).2.Entered pid before :=
    awaitEnd_keeps (P := fun b => b.Entered pid before) (fun _ h => h.pump) (fun _ h => h.tryExit)
      (fun _ _ h => h.withHost rfl) deadline grace (h.signal .term)
  rcases a.terminate_cases grace with ⟨-, eq⟩
    | ⟨deadline, -, ⟨_, seen, eq⟩ | ⟨-, ⟨_, -, eq⟩ | ⟨_, -, eq⟩⟩⟩
  all_goals
    rw [eq] at ended
    cases ended
  · exact .inl ((awaited deadline).ledger_of_known (exit_of_awaitEnd_some seen))
  · rw [ledger_pump]
    exact ((awaited deadline).signal .kill).wait
  · exact ((awaited deadline).signal .kill).wait

end Watched

/-! ## The start of a child -/

namespace Child

variable [Host ω] {n n' : Booked ω} {call : Invocation} {program : String}

/-- Letting reads return at once enters nothing. -/
theorem ledger_unblockAll (n : Booked ω) (pid : Pid) (streams : List Stream) :
    (unblockAll n pid streams).2.ledger = n.ledger :=
  unblockAll_keeps (P := fun n' : Booked ω => n'.ledger = n.ledger) (fun _ _ same => same) rfl
    streams

/-- A child that is begun is entered, also when reads of it return at once. -/
theorem ledger_begun {n₁ n₂ : Booked ω} {pid : Pid} {answer : Except SessionFault Unit}
    (spawned : Host.spawn n call = (.ok pid, n₁))
    (unblocked : unblockAll n₁ pid Stream.all = (answer, n₂)) :
    n₂.ledger = .started pid :: n.ledger := by
  have entered := n.ledger_spawn call
  rw [spawned] at entered
  have same := ledger_unblockAll n₁ pid Stream.all
  rw [unblocked] at same
  exact same.trans entered

/-- **A child that starts is entered**, and no end of it is known. -/
theorem entered_of_start {child : Child} (started : start n call program = (.ok child, n'))
    (capture : Capture) :
    (⟨n', child, capture⟩ : Watched (Booked ω)).Entered child.pid
      (.started child.pid :: n.ledger) := by
  obtain ⟨n₁, spawned, fresh, unblocked⟩ := of_start started
  exact .alive rfl (congrArg exit fresh) (ledger_begun spawned unblocked)

/-- **A child that does not start** was not begun; or it was, and it was reaped, or waited for in
vain. -/
theorem ledger_of_start_error {fault : SessionFault}
    (failed : start n call program = (.error fault, n')) :
    n'.ledger = n.ledger ∨ ∃ pid, n'.ledger = .reaped pid :: .started pid :: n.ledger
      ∨ n'.ledger = .lost pid :: .started pid :: n.ledger := by
  rcases of_start_error failed with ⟨why, spawned, -⟩ | ⟨pid, n₁, n₂, spawned, unblocked, rfl⟩
  · have entered := n.ledger_spawn call
    rw [spawned] at entered
    exact .inl entered
  · have begun := ledger_begun spawned unblocked
    have killed : (Host.kill n₂ pid .kill).2.ledger = .started pid :: n.ledger := begun
    refine .inr ⟨pid, ?_⟩
    rw [Booked.ledger_wait, killed]
    cases (Host.wait (Host.kill n₂ pid .kill).2 pid).1 with
    | ok => exact .inl rfl
    | error => exact .inr rfl

end Child

end NestedSession
