import NestedSession.Proofs.Child.Pairing
import NestedSession.Proofs.Child.Steps
import NestedSession.Proofs.System.Marking

/-!
# Proofs/Child/Marking — a child is started, watched and ended on a host that remembers

What no request changes, the end of a child does not change (`Host.Keeps.terminate`).  So a child
that does not start leaves a mark (`Child.failed_start`), and so does a question for its end that is
not answered or a pump that fails (`Watched.failed_tryExit`, `Watched.failed_pump`); whatever
follows, the mark stays.
-/

namespace NestedSession

/-! ## What no request changes -/

namespace Host.Keeps

variable {ω : Type} [Host ω] {P : ω → Prop} (h : Host.Keeps P) {a : Watched ω}
include h

theorem tryExit (held : P a.host) : P a.tryExit.2.host := by
  have asked := h.tryWait a.host a.child.pid held
  rcases a.tryExit_cases with ⟨_, -, eq⟩ | ⟨-, ⟨_, -, eq⟩ | ⟨-, eq⟩ | ⟨_, -, eq⟩⟩ <;> rw [eq]
  · exact held
  · exact asked
  · exact asked
  · exact asked

theorem waited (held : P a.host) : P a.wait.2.host := by
  have asked := h.wait a.host a.child.pid held
  rcases a.wait_cases with ⟨_, -, eq⟩ | ⟨-, ⟨_, -, eq⟩ | ⟨_, -, eq⟩⟩ <;> rw [eq]
  · exact held
  · exact asked
  · exact asked

theorem signal (held : P a.host) (sent : Signal) : P (a.signal sent).2.host := by
  have asked := h.tryExit held
  rcases a.signal_cases sent with eq | ⟨-, eq⟩ <;> rw [eq]
  · exact asked
  · exact h.kill _ _ sent asked

theorem pumpStream (held : P a.host) (s : Stream) : P (a.pumpStream s).2.host :=
  Watched.pumpStream_keeps (P := fun b => P b.host) (fun _ _ held => h.leave _ _ _ _ held)
    (fun _ _ held => held) held s

theorem pump (held : P a.host) : P a.pump.2.host :=
  Watched.pump_keeps (P := fun b => P b.host) (fun _ s held => h.pumpStream held s) held

theorem awaitEnd (held : P a.host) (deadline : Moment) (left : Span) :
    P (a.awaitEnd deadline left).2.host :=
  Watched.awaitEnd_keeps (P := fun b => P b.host) (fun _ held => h.pump held)
    (fun _ held => h.tryExit held) (fun _ span held => h.pause _ span held) deadline left held

/-- **The end of a child.** -/
theorem terminate (held : P a.host) {grace : Span} {answer : Option Exit × Bool} {b : Watched ω}
    (ended : a.terminate grace = some (answer, b)) : P b.host :=
  Watched.terminate_keeps (P := fun b => P b.host) (fun _ sent held => h.signal held sent)
    (fun _ held => h.pump held) (fun _ held => h.waited held)
    (fun _ deadline left held => h.awaitEnd held deadline left) held ended

end Host.Keeps

/-! ## The start of a child -/

section

variable {ω' ω : Type} [Host ω'] [Host ω] {f : ω' → ω} (h : Host.Echoes f)
include h

theorem Child.unblockAll_map (w : ω') (pid : Pid) (streams : List Stream) :
    unblockAll (f w) pid streams = Prod.map id f (unblockAll w pid streams) := by
  induction streams generalizing w with
  | nil => rfl
  | cons s rest ih =>
    simp only [unblockAll, h.unblock]
    rcases Host.unblock w pid s with ⟨_ | _, w'⟩
    · rfl
    · exact ih w'

/-- **A child is started** the same way on both hosts. -/
theorem Child.start_map (w : ω') (call : Invocation) (program : String) :
    start (f w) call program = Prod.map id f (start w call program) := by
  simp only [start, h.spawn]
  rcases Host.spawn w call with ⟨_ | pid, w'⟩
  · rfl
  · simp only [Prod.map, id_eq, unblockAll_map h]
    rcases unblockAll w' pid Stream.all with ⟨_ | _, w''⟩
    · simp only [h.kill, h.wait, Prod.map]
    · rfl

end

/-! ## Marks -/

section

variable {ω : Type} [Host ω]

/-- **A child that does not start leaves a mark.** -/
theorem Child.failed_start {n : Marked ω} {call : Invocation} {program : String}
    {fault : SessionFault} (failed : (start n call program).1 = .error fault) :
    (start n call program).2.failed = true := by
  rcases of_start_error (Prod.ext failed rfl) with
    ⟨why, spawned, -⟩ | ⟨pid, n₁, n₂, -, unblocked, ended⟩
  · have marked : (Host.spawn n call).2.failed = true :=
      Marked.failed_mark (congrArg Prod.fst spawned)
    rwa [spawned] at marked
  · obtain ⟨n₀, s, errno, refused, -⟩ := of_unblockAll_error unblocked
    have marked : (Host.unblock n₀ pid s).2.failed = true :=
      Marked.failed_mark (congrArg Prod.fst refused)
    rw [refused] at marked
    exact (congrArg Marked.failed ended).trans
      (Marked.keeps.wait _ _ (Marked.keeps.kill _ _ _ marked))

namespace Watched

variable {a : Watched (Marked ω)} {fault : SessionFault}

/-- **A question for the end that is not answered leaves a mark.** -/
theorem failed_tryExit (failed : a.tryExit.1 = .error fault) : a.tryExit.2.host.failed = true := by
  rcases a.tryExit_cases with ⟨_, -, eq⟩ | ⟨-, ⟨_, told, eq⟩ | ⟨-, eq⟩ | ⟨_, -, eq⟩⟩
  all_goals rw [eq] at failed ⊢
  · nomatch failed
  · exact Marked.failed_mark told
  · nomatch failed
  · nomatch failed

theorem failed_pumpStream {s : Stream} (failed : (a.pumpStream s).1 = .error fault) :
    (a.pumpStream s).2.host.failed = true := by
  obtain ⟨drained, refused⟩ := pumpStream_error failed
  rw [drained]
  exact Marked.failed_leave refused

/-- **A pump that fails leaves a mark.** -/
theorem failed_pump (failed : a.pump.1 = .error fault) : a.pump.2.host.failed = true := by
  rcases a.pump_cases with ⟨_, first, eq⟩ | ⟨-, ⟨_, second, eq⟩ | ⟨_, _, -, eq⟩⟩
  all_goals rw [eq] at failed ⊢
  · exact failed_pumpStream first
  · exact failed_pumpStream second
  · nomatch failed

end Watched

end

end NestedSession
