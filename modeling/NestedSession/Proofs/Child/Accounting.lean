import NestedSession.Proofs.Capture.Feeding
import NestedSession.Proofs.Child.Steps
import NestedSession.Proofs.System.Pipes

/-!
# Proofs/Child/Accounting — every octet a child wrote is shown, held back or unread

A watched child is *accounted for* (`Watched.Accounted`) if what it wrote to an output is what its
buffer was given, followed by what is still unread.  Whatever is done with the child keeps it so:
time passes (`Accounted.later`), its end is asked for (`Accounted.tryExit`), its outputs are read
(`Accounted.pump`).  Once it writes no more, one pump takes all that a drain may take
(`octetsOf_unread_pump`).
-/

namespace NestedSession.Watched

/-! ## The account -/

variable {ω : Type} [Piped ω] {a : Watched ω}

/-- All that the child ever wrote to an output. -/
def written (a : Watched ω) (s : Stream) : Octets := Piped.written a.host a.child.pid s

/-- Nothing more will be written to an output. -/
def Silent (a : Watched ω) (s : Stream) : Prop := Piped.silent a.host a.child.pid s

/-- **Nothing the child wrote is lost, doubled or out of order**, and what is known of its end is
so. -/
structure Accounted (a : Watched ω) : Prop where
  held : ∀ s, ∃ given, (a.capture.buffer s).Holds given
    ∧ a.written s = given ++ octetsOf (a.unread s)
  closed : ∀ s, a.capture.isClosed s = true → a.Silent s ∧ octetsOf (a.unread s) = []
  shut : ∀ s, a.child.isOpen s = false → a.capture.isClosed s = true
  silent : a.child.exit ≠ none → ∀ s, a.Silent s

/-- **What may become of one output in a step**: some octets are taken into the buffer, the rest is
kept, and more may be written behind it. -/
structure Advances (a : Watched ω) (w : ω) (c : Capture) (s : Stream) (taken kept : Octets) :
    Prop where
  split : octetsOf (a.unread s) = taken ++ kept
  grows : Grows a.host w a.child.pid s kept
  holds : ∀ given, (a.capture.buffer s).Holds given →
    (a.capture.isClosed s = true → taken = []) → (c.buffer s).Holds (given ++ taken)
  closed : c.isClosed s = true → a.capture.isClosed s = true ∨ a.Silent s ∧ kept = []
  stays : a.capture.isClosed s = true → c.isClosed s = true

namespace Accounted

/-! ## Time passes -/

/-- **A step keeps the account.** -/
theorem advance (h : a.Accounted) {w : ω} {c : Capture} (exit : Option Exit)
    (advances : ∀ s, ∃ taken kept, a.Advances w c s taken kept)
    (silent : exit ≠ none → ∀ s, Piped.silent w a.child.pid s) :
    Accounted ⟨w, { a.child with exit := exit }, c⟩ := by
  refine ⟨fun s => ?_, fun s closed => ?_, fun s shut => ?_, silent⟩
  · obtain ⟨given, holds, written⟩ := h.held s
    obtain ⟨taken, kept, step⟩ := advances s
    obtain ⟨more, written', unread', -⟩ := step.grows
    refine ⟨given ++ taken, step.holds given holds fun closed => ?_, written'.trans ?_⟩
    · exact (List.append_eq_nil_iff.mp (step.split.symm.trans (h.closed s closed).2)).1
    · refine Eq.trans ?_ (congrArg (given ++ taken ++ ·) unread'.symm)
      rw [← List.append_assoc, List.append_assoc given, ← step.split, ← written]
      rfl
  · obtain ⟨taken, kept, step⟩ := advances s
    obtain ⟨more, -, unread', stays⟩ := step.grows
    have still : a.Silent s ∧ kept = [] := by
      rcases step.closed closed with before | now
      · obtain ⟨silent, nothing⟩ := h.closed s before
        exact ⟨silent, (List.append_eq_nil_iff.mp (step.split.symm.trans nothing)).2⟩
      · exact now
    refine ⟨(stays still.1).2, unread'.trans ?_⟩
    rw [still.2, (stays still.1).1]
    rfl
  · obtain ⟨taken, kept, step⟩ := advances s
    exact step.stays (h.shut s shut)

/-- Time passes, and perhaps an end is told. -/
theorem tell (h : a.Accounted) {w : ω} (l : Later a.host w a.child.pid) (exit : Option Exit)
    (silent : exit ≠ none → ∀ s, Piped.silent w a.child.pid s) :
    Accounted ⟨w, { a.child with exit := exit }, a.capture⟩ :=
  h.advance exit
    (fun s => ⟨[], _, rfl, l s, fun given holds _ => (List.append_nil given).symm ▸ holds,
      .inl, id⟩)
    silent

/-- **Time passes.** -/
theorem later (h : a.Accounted) {w : ω} (l : Later a.host w a.child.pid) :
    (a.withHost w).Accounted :=
  h.tell l a.child.exit fun ended s => l.silent (h.silent ended s)

/-- An output whose end was seen is given up. -/
theorem withoutStream (h : a.Accounted) {s : Stream} (closed : a.capture.isClosed s = true) :
    (a.withoutStream s).Accounted := by
  obtain ⟨w, child, c⟩ := a
  refine ⟨fun t => ?_, fun t => ?_, fun t shut => ?_, fun ended t => ?_⟩
  · rw [written, unread, Watched.withoutStream, Child.pid_shut]
    exact h.held t
  · rw [Silent, unread, Watched.withoutStream, Child.pid_shut]
    exact h.closed t
  · rw [Watched.withoutStream, Child.isOpen_shut] at shut
    split at shut
    · next same => exact same ▸ closed
    · exact h.shut t shut
  · rw [Watched.withoutStream, Child.exit_shut] at ended
    rw [Silent, Watched.withoutStream, Child.pid_shut]
    exact h.silent ended t

variable [PipeLaws ω]

/-- **The child is asked for its end.** -/
theorem tryExit (h : a.Accounted) : a.tryExit.2.Accounted := by
  have later := PipeLaws.tryWait a.host a.child.pid
  rcases a.tryExit_cases with ⟨_, -, eq⟩ | ⟨-, ⟨_, -, eq⟩ | ⟨-, eq⟩ | ⟨_, told, eq⟩⟩
  all_goals rw [eq]
  · exact h
  · exact h.later later
  · exact h.later later
  · exact h.tell later _ fun _ => PipeLaws.tryWait_silent _ _ _ told

/-- **The child is waited for.** -/
theorem wait (h : a.Accounted) : a.wait.2.Accounted := by
  have later := PipeLaws.wait a.host a.child.pid
  rcases a.wait_cases with ⟨_, -, eq⟩ | ⟨-, ⟨_, -, eq⟩ | ⟨_, told, eq⟩⟩
  all_goals rw [eq]
  · exact h
  · exact h.later later
  · exact h.tell later _ fun _ => PipeLaws.wait_silent _ _ _ told

/-- **The child is sent a signal.** -/
theorem signal (h : a.Accounted) (sent : Signal) : (a.signal sent).2.Accounted := by
  rcases a.signal_cases sent with eq | ⟨-, eq⟩ <;> rw [eq]
  · exact h.tryExit
  · exact h.tryExit.later (PipeLaws.kill _ _ sent)

/-! ## Its outputs are read -/

end Accounted

variable [PipeLaws ω]

/-- **A drain, output by output.** -/
theorem drained_advances (a : Watched ω) (s t : Stream) :
    ∃ taken kept, a.Advances (a.drained s).host (a.drained s).capture t taken kept := by
  obtain ⟨taken, split, drains⟩ := Buffer.drain_takes (a.capture.buffer s) 0 (a.unread s)
  have grows := PipeLaws.leave a.host a.child.pid s _ taken split t
  have buffer := Capture.buffer_set a.capture s t
    ((a.capture.buffer s).drain 0 (a.unread s)).buffer
  by_cases same : t = s
  · subst same
    rw [if_pos rfl] at grows buffer
    refine ⟨taken, _, split, grows, fun given holds before => ?_, fun closed => ?_,
      fun closed => ?_⟩
    · exact buffer.symm ▸ holds.drains drains before
    · have closed : ((a.capture.buffer t).drain 0 (a.unread t)).buffer.closed = true :=
        buffer ▸ closed
      rcases drains.closed closed with before | ⟨rest, next, unread⟩
      · exact .inl before
      · refine .inr ⟨PipeLaws.ended_silent _ _ _ (next.subset List.mem_cons_self), ?_⟩
        rw [unread, octetsOf_ended]
        exact PipeLaws.ended_last _ _ _ _ next
    · exact (congrArg Buffer.closed buffer).trans (drains.closed_of_closed closed)
  · rw [if_neg same] at grows buffer
    refine ⟨[], _, rfl, grows, fun given holds _ => ?_, fun closed => .inl ?_, fun closed => ?_⟩
    · rw [List.append_nil]
      exact buffer.symm ▸ holds
    · exact (congrArg Buffer.closed buffer).symm.trans closed
    · exact (congrArg Buffer.closed buffer).trans closed

/-- A silent output stays silent when one is drained. -/
theorem Silent.drained {t : Stream} (h : a.Silent t) (s : Stream) : (a.drained s).Silent t := by
  obtain ⟨taken, kept, step⟩ := a.drained_advances s t
  exact (step.grows.choose_spec.2.2 h).2

namespace Accounted

/-- An output is drained. -/
theorem drained (h : a.Accounted) (s : Stream) : (a.drained s).Accounted :=
  h.advance a.child.exit (a.drained_advances s) fun ended t => (h.silent ended t).drained s

/-- **An output is pumped.** -/
theorem pumpStream (h : a.Accounted) (s : Stream) : (a.pumpStream s).2.Accounted := by
  rcases a.pumpStream_cases s with ⟨-, eq⟩ | ⟨_, -, eq⟩ | ⟨_, _, -, eq⟩ | ⟨result, eq⟩
  all_goals rw [eq]
  · exact h
  · exact h.drained s
  · exact h.drained s
  · refine (h.drained s).withoutStream ?_
    obtain ⟨taken, -, drains⟩ := Buffer.drain_takes (a.capture.buffer s) 0 (a.unread s)
    rw [Capture.isClosed, Watched.drained, Capture.drain, Capture.buffer_set, if_pos rfl]
    exact drains.closed_of_result result

/-- **Both outputs are pumped**, or the first only if that failed. -/
theorem pump (h : a.Accounted) : a.pump.2.Accounted :=
  pump_keeps (fun _ s h => h.pumpStream s) h

end Accounted

/-! ## Nothing is left unread -/

variable {s t : Stream}

/-- **A drain takes all** that is in a silent output, if that is no more than it may take. -/
theorem octetsOf_unread_drain {status : ReadStatus}
    (read : (a.capture.drain s (a.unread s)).result = .ok status) (silent : a.Silent s)
    (small : octetCount (a.unread s) ≤ drainLimit) :
    octetsOf (a.capture.drain s (a.unread s)).unread = [] := by
  obtain ⟨taken, split, drains⟩ := Buffer.drain_takes (a.capture.buffer s) 0 (a.unread s)
  exact drains.unread_eq_nil split small read (PipeLaws.ended_last a.host a.child.pid s)
    fun fault rest => PipeLaws.blocked_last a.host a.child.pid s fault rest silent

/-- What is unread of a silent output once an output was drained. -/
theorem octetsOf_unread_drained (silent : a.Silent t) :
    octetsOf ((a.drained s).unread t)
      = octetsOf (if t = s then (a.capture.drain s (a.unread s)).unread else a.unread t) := by
  obtain ⟨taken, split, -⟩ := Buffer.drain_takes (a.capture.buffer s) 0 (a.unread s)
  obtain ⟨more, -, unread, stays⟩ := PipeLaws.leave a.host a.child.pid s _ taken split t
  rw [(stays silent).1, List.append_nil] at unread
  exact unread

/-- An output that is silent, and of which at most so many octets are unread. -/
def Ebbs (a : Watched ω) (t : Stream) (n : ℕ) : Prop :=
  a.Silent t ∧ octetCount (a.unread t) ≤ n

theorem Ebbs.drained {n : ℕ} (h : a.Ebbs t n) (s : Stream) : (a.drained s).Ebbs t n := by
  refine ⟨h.1.drained s, ?_⟩
  obtain ⟨taken, split, -⟩ := Buffer.drain_takes (a.capture.buffer s) 0 (a.unread s)
  rw [octetCount_eq, octetsOf_unread_drained h.1]
  have small := h.2
  rw [octetCount_eq] at small
  split
  · next same =>
    subst same
    rw [split, List.length_append] at small
    exact (Nat.le_add_left _ _).trans small
  · exact small

theorem Ebbs.pumpStream {n : ℕ} (h : a.Ebbs t n) (s : Stream) : (a.pumpStream s).2.Ebbs t n :=
  pumpStream_keeps (P := fun b => b.Ebbs t n) (fun _ s h => h.drained s)
    (fun b s h => by rwa [Ebbs, Silent, unread, withoutStream, Child.pid_shut]) h s

theorem Ebbs.pump {n : ℕ} (h : a.Ebbs t n) : a.pump.2.Ebbs t n :=
  pump_keeps (P := fun b => b.Ebbs t n) (fun _ s h => h.pumpStream s) h

/-- **A pump of a silent output leaves nothing**, if it does not fail and a drain may take all. -/
theorem octetsOf_unread_pumpStream (h : a.Accounted) {n : ℕ} (read : (a.pumpStream s).1 = .ok n)
    (silent : a.Silent s) (small : octetCount (a.unread s) ≤ drainLimit) :
    octetsOf ((a.pumpStream s).2.unread s) = [] := by
  have empty {status : ReadStatus} (read : (a.capture.drain s (a.unread s)).result = .ok status) :
      octetsOf ((a.drained s).unread s) = [] := by
    rw [octetsOf_unread_drained silent, if_pos rfl]
    exact octetsOf_unread_drain read silent small
  rcases a.pumpStream_cases s with ⟨shut, eq⟩ | ⟨_, -, eq⟩ | ⟨_, _, result, eq⟩ | ⟨result, eq⟩
  all_goals rw [eq] at read ⊢
  · exact (h.closed s (h.shut s shut)).2
  · nomatch read
  · exact empty result
  · rw [unread, withoutStream, Child.pid_shut]
    exact empty result

/-- **A pump leaves nothing** of a child that writes no more, if it does not fail and a drain may
take all of either output. -/
theorem octetsOf_unread_pump (h : a.Accounted) {n : ℕ} (read : a.pump.1 = .ok n)
    (silent : ∀ s, a.Silent s) (small : ∀ s, octetCount (a.unread s) ≤ drainLimit) (s : Stream) :
    octetsOf (a.pump.2.unread s) = [] := by
  rcases a.pump_cases with ⟨_, -, eq⟩ | ⟨⟨_, first⟩, ⟨_, -, eq⟩ | ⟨_, _, second, eq⟩⟩
  all_goals rw [eq] at read ⊢
  · nomatch read
  · nomatch read
  have left (t : Stream) : (a.pumpStream .stdout).2.Ebbs t drainLimit :=
    Ebbs.pumpStream ⟨silent t, small t⟩ .stdout
  cases s with
  | stdout =>
    have none := octetsOf_unread_pumpStream h first (silent .stdout) (small .stdout)
    have still : (a.pumpStream .stdout).2.Ebbs .stdout 0 :=
      ⟨(left .stdout).1, by rw [octetCount_eq, none]; rfl⟩
    have zero := (still.pumpStream .stderr).2
    rw [octetCount_eq] at zero
    exact List.eq_nil_of_length_eq_zero (Nat.le_zero.mp zero)
  | stderr =>
    exact octetsOf_unread_pumpStream (h.pumpStream .stdout) second (left .stderr).1
      (left .stderr).2

end NestedSession.Watched
