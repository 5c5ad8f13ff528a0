import NestedSession.Proofs.Capture.Draining
import NestedSession.System.Host

/-!
# Proofs/System/Pipes — outputs that are pipes

A host says what a reader sees of an output; what was written to it, by whom and when, it does not
say.  A host of pipes (`Piped`) can be asked that too, and its answers fit together as pipes and
`waitpid` are documented (`PipeLaws`): what is written stays, in order, until it is read; nothing is
written to an output that has fallen silent; and outputs are silent once the end of their process
was told.
-/

namespace NestedSession

/-- **A host whose outputs are pipes.**  The two questions are never asked by a program. -/
class Piped (ω : Type) extends Host ω where
  /-- All that was ever written to an output of a process. -/
  written : ω → Pid → Stream → Octets
  /-- Nothing more will be written: its end was seen, or its process has ended and whoever else
  still holds it writes nothing. -/
  silent : ω → Pid → Stream → Prop

variable {ω : Type} [Piped ω]

/-- **From one moment to a later one**, with `kept` left unread of an output: only more may be
written, and not if it is silent. -/
def Grows (w w' : ω) (pid : Pid) (s : Stream) (kept : Octets) : Prop :=
  ∃ more, Piped.written w' pid s = Piped.written w pid s ++ more
    ∧ octetsOf (Host.unread w' pid s) = kept ++ more
    ∧ (Piped.silent w pid s → more = [] ∧ Piped.silent w' pid s)

/-- **From one moment to a later one**, with nothing read between. -/
def Later (w w' : ω) (pid : Pid) : Prop :=
  ∀ s, Grows w w' pid s (octetsOf (Host.unread w pid s))

namespace Later

variable {w w' w'' : ω} {pid : Pid}

theorem refl (w : ω) (pid : Pid) : Later w w pid :=
  fun _ => ⟨[], (List.append_nil _).symm, (List.append_nil _).symm, fun h => ⟨rfl, h⟩⟩

theorem trans (h : Later w w' pid) (h' : Later w' w'' pid) : Later w w'' pid := by
  intro s
  obtain ⟨more, written, unread, stays⟩ := h s
  obtain ⟨more', written', unread', stays'⟩ := h' s
  refine ⟨more ++ more', ?_, ?_, fun silent => ?_⟩
  · rw [written', written, List.append_assoc]
  · rw [unread', unread, List.append_assoc]
  · obtain ⟨rfl, still⟩ := stays silent
    exact stays' still

theorem silent (h : Later w w' pid) {s : Stream} (silent : Piped.silent w pid s) :
    Piped.silent w' pid s := ((h s).choose_spec.2.2 silent).2

/-- Nothing more is written to a silent output. -/
theorem written_eq (h : Later w w' pid) {s : Stream} (silent : Piped.silent w pid s) :
    Piped.written w' pid s = Piped.written w pid s := by
  obtain ⟨more, written, -, stays⟩ := h s
  rw [written, (stays silent).1, List.append_nil]

end Later

/-- **What is documented of pipes and processes.**  Time may pass in every request. -/
class PipeLaws (ω : Type) [Piped ω] : Prop where
  makeDirs : ∀ (w : ω) path pid, Later w (Disk.makeDirs w path).2 pid
  replace : ∀ (w : ω) path bs pid, Later w (Disk.replace w path bs).2 pid
  removeTree : ∀ (w : ω) path pid, Later w (Disk.removeTree w path).2 pid
  unblock : ∀ (w : ω) pid s, Later w (Host.unblock w pid s).2 pid
  kill : ∀ (w : ω) pid sent, Later w (Host.kill w pid sent).2 pid
  pause : ∀ (w : ω) span pid, Later w (Host.pause w span) pid
  /-- Asking for the end reads nothing, and neither does waiting for it. -/
  tryWait : ∀ (w : ω) pid, Later w (Host.tryWait w pid).2 pid
  wait : ∀ (w : ω) pid, Later w (Host.wait w pid).2 pid
  /-- The outputs of a new process are its own. -/
  spawn : ∀ (w : ω) call pid, (Host.spawn w call).1 = .ok pid →
    ∀ s, octetsOf (Host.unread (Host.spawn w call).2 pid s)
      = Piped.written (Host.spawn w call).2 pid s
  /-- What is not read stays, and so does what is in the other output. -/
  leave : ∀ (w : ω) pid s rest taken,
    octetsOf (Host.unread w pid s) = taken ++ octetsOf rest →
    ∀ t, Grows w (Host.leave w pid s rest) pid t
      (octetsOf (if t = s then rest else Host.unread w pid t))
  /-- A process that has ended writes nothing. -/
  tryWait_silent : ∀ (w : ω) pid status, (Host.tryWait w pid).1 = .ok (some status) →
    ∀ s, Piped.silent (Host.tryWait w pid).2 pid s
  wait_silent : ∀ (w : ω) pid status, (Host.wait w pid).1 = .ok status →
    ∀ s, Piped.silent (Host.wait w pid).2 pid s
  /-- An output whose end is there to be seen is silent. -/
  ended_silent : ∀ (w : ω) pid s, .ended ∈ Host.unread w pid s → Piped.silent w pid s
  /-- There is nothing behind the end of an output. -/
  ended_last : ∀ (w : ω) pid s rest, .ended :: rest <:+ Host.unread w pid s → octetsOf rest = []
  /-- Of a silent output, a read that would have to wait finds nothing that comes later. -/
  blocked_last : ∀ (w : ω) pid s fault rest, Piped.silent w pid s → fault.isWouldBlock = true →
    .failed fault :: rest <:+ Host.unread w pid s → octetsOf rest = []

end NestedSession
