import NestedSession.Proofs.Session.Output
import NestedSession.Proofs.Settings.Validity

/-!
# Proofs/Session/Deadline — whether a session comes to its end is a matter of the clock

A child that has been told to end is given some grace, up to a deadline.  The clock can show that
deadline or it cannot (`Moment.isSome_after?_iff`), and this alone decides whether the session ends
or the program stops (`Watched.isSome_terminate_iff`).  Settings that pass their check need not be
such that it can: the check bounds the grace from below, the clock from above
(`Session.teardown_deadline`).
-/

namespace NestedSession

/-! ## The clock -/

/-- **The clock shows a moment ahead** exactly if it is before the limit. -/
theorem Moment.isSome_after?_iff (m : Moment) (span : Span) :
    (m.after? span).isSome = true ↔ m.nanoseconds + span < limit := by
  rw [after?, Option.isSome_ite]

/-- A grace of as many seconds as the clock counts is beyond it. -/
theorem Span.limit_le_ofSeconds {n : UInt64} (large : 2 ^ 63 ≤ n.toNat) :
    Moment.limit ≤ Span.ofSeconds n := Nat.mul_le_mul_right _ large

/-! ## A child that is ended -/

namespace Watched

variable {ω : Type} [Host ω] {a : Watched ω}

/-- **A child is ended** exactly if the clock can show the deadline. -/
theorem isSome_terminate_iff (a : Watched ω) (grace : Span) :
    (a.terminate grace).isSome = true
      ↔ (Host.now (a.signal .term).2.host).nanoseconds + grace < Moment.limit := by
  rw [← Moment.isSome_after?_iff]
  rcases a.terminate_cases grace with ⟨unshown, eq⟩
    | ⟨_, shown, ⟨_, -, eq⟩ | ⟨-, ⟨_, -, eq⟩ | ⟨_, -, eq⟩⟩⟩
  · rw [unshown, eq]
    rfl
  all_goals
    rw [shown, eq]
    rfl

theorem pid_awaitEnd (a : Watched ω) (deadline : Moment) (left : Span) :
    (a.awaitEnd deadline left).2.child.pid = a.child.pid :=
  awaitEnd_keeps (P := fun b => b.child.pid = a.child.pid) (fun b h => b.pid_pump.trans h)
    (fun b h => b.pid_tryExit.trans h) (fun _ _ h => h) deadline left rfl

/-- **A child that was ended was reaped**: its end is known, or the last that was asked of the host
is to wait for it, and that failed. -/
theorem terminate_reaps {grace : Span} {exit : Option Exit} {forced : Bool} {b : Watched ω}
    (ended : a.terminate grace = some ((exit, forced), b)) :
    exit.isSome = true ∨ exit = none ∧ forced = true
      ∧ ∃ w fault, Host.wait w a.child.pid = (.error fault, b.host) := by
  rcases a.terminate_cases grace with ⟨-, eq⟩
    | ⟨deadline, -, ⟨_, -, eq⟩ | ⟨-, ⟨_, -, eq⟩ | ⟨_, failed, eq⟩⟩⟩
  all_goals
    rw [eq] at ended
    cases ended
  · exact .inl rfl
  · exact .inl rfl
  refine .inr ⟨rfl, rfl, ?_⟩
  have same : ((a.signal .term).2.awaitEnd deadline grace).2.kill.2.child.pid = a.child.pid :=
    (pid_signal _ _).trans ((pid_awaitEnd _ _ _).trans (pid_signal _ _))
  rw [← same]
  rcases wait_cases ((a.signal .term).2.awaitEnd deadline grace).2.kill.2 with ⟨_, -, eq⟩
    | ⟨-, ⟨fault, told, eq⟩ | ⟨_, -, eq⟩⟩
  · nomatch failed.symm.trans (congrArg Prod.fst eq)
  · rw [eq]
    exact ⟨_, fault, Prod.ext told rfl⟩
  · nomatch failed.symm.trans (congrArg Prod.fst eq)

end Watched

/-! ## A session that ends -/

namespace Session

/-- A session with another grace for its child. -/
def withGrace (s : Session) (seconds : UInt64) : Session :=
  { s with settings := { s.settings with shutdownTimeoutSecs := seconds } }

/-- The check has nothing against any grace but none. -/
theorem check_withGrace {s : Session} (accepted : s.settings.check = .ok ()) {seconds : UInt64}
    (nonzero : seconds ≠ 0) : (s.withGrace seconds).settings.check = .ok () := by
  have sound := s.settings.check_eq_ok_iff.mp accepted
  exact (SessionSettings.check_eq_ok_iff _).mpr { sound with shutdownTimeout_pos := nonzero }

variable {ω : Type} [Host ω] {s : Session} {child : Child}

/-- The reading of the clock once the child has been told to end. -/
def toldAt (s : Session) (child : Child) (w : ω) : Moment :=
  Host.now ((⟨w, child, s.capture⟩ : Watched ω).signal .term).2.host

section

variable (known : s.child = some child)
include known

theorem isSome_teardown_iff (w : ω) :
    (s.teardown w).isSome = true
      ↔ (s.toldAt child w).nanoseconds + s.settings.shutdownTimeout < Moment.limit := by
  rw [teardown_of_child known, Option.isSome_map]
  exact Watched.isSome_terminate_iff _ _

theorem isSome_abandon_iff (w : ω) :
    (s.abandon w).isSome = true
      ↔ (s.toldAt child w).nanoseconds + s.settings.shutdownTimeout < Moment.limit := by
  rw [abandon_of_child known, Option.isSome_map]
  exact Watched.isSome_terminate_iff _ _

/-- The end of a session that ends: its child was reaped, and the last steps follow. -/
theorem teardown_reaps {w w' : ω} {report : SessionReport}
    (ended : s.teardown w = some (report, w')) :
    ∃ b : Watched ω, (report, w') = (s.after b).conclude b.host report.exit report.forced
      ∧ (report.exit.isSome = true ∨ report.forced = true
        ∧ ∃ w fault, Host.wait w child.pid = (.error fault, b.host)) := by
  rw [teardown_of_child known, Option.map_eq_some_iff] at ended
  obtain ⟨⟨⟨exit, forced⟩, b⟩, ended, concluded⟩ := ended
  obtain rfl : exit = report.exit := congrArg (·.1.exit) concluded
  obtain rfl : forced = report.forced := congrArg (·.1.forced) concluded
  refine ⟨b, concluded.symm, ?_⟩
  rcases Watched.terminate_reaps ended with known | ⟨-, forced, failed⟩
  · exact .inl known
  · exact .inr ⟨forced, failed⟩

end

/-- **Whether a session comes to its end.**  Of a session with a child, whose settings pass their
check:

* It ends with a report exactly if the clock can show the deadline for its child, and so does one
  that is given up; else the program stops.
* A session that ends has reaped its child, or waiting for it failed in the end.
* The check does not see to that: it passes every grace but none at all.  One of `2 ^ 63` seconds or
  more is beyond the clock, whatever it reads; with it no session ends, and none can be given
  up. -/
theorem teardown_deadline (known : s.child = some child) (accepted : s.settings.check = .ok ())
    (w : ω) :
    ((s.teardown w).isSome = true
      ↔ (s.toldAt child w).nanoseconds + s.settings.shutdownTimeout < Moment.limit)
    ∧ ((s.abandon w).isSome = true
      ↔ (s.toldAt child w).nanoseconds + s.settings.shutdownTimeout < Moment.limit)
    ∧ (∀ report w', s.teardown w = some (report, w') →
      ∃ b : Watched ω, (report, w') = (s.after b).conclude b.host report.exit report.forced
        ∧ (report.exit.isSome = true ∨ report.forced = true
          ∧ ∃ w fault, Host.wait w child.pid = (.error fault, b.host)))
    ∧ ∀ seconds : UInt64, seconds ≠ 0 → (s.withGrace seconds).settings.check = .ok ()
      ∧ (2 ^ 63 ≤ seconds.toNat →
        (s.withGrace seconds).teardown w = none ∧ (s.withGrace seconds).abandon w = none) := by
  refine ⟨isSome_teardown_iff known w, isSome_abandon_iff known w,
    fun report w' => teardown_reaps known, fun seconds nonzero =>
      ⟨check_withGrace accepted nonzero, fun large => ?_⟩⟩
  have known' : (s.withGrace seconds).child = some child := known
  have beyond : ¬ ((s.withGrace seconds).toldAt child w).nanoseconds
      + (s.withGrace seconds).settings.shutdownTimeout < Moment.limit :=
    Nat.not_lt.mpr (Nat.le_trans (Span.limit_le_ofSeconds large) (Nat.le_add_left _ _))
  have ended := mt (isSome_teardown_iff known' w).mp beyond
  have given := mt (isSome_abandon_iff known' w).mp beyond
  exact ⟨by simpa using ended, by simpa using given⟩

/-- A session whose child was just started and will not end by itself. -/
def underway : Session := { justBuilt with child := some (.fresh 7) }

/-- It comes to its end; and with the greatest grace that can be set, it does not. -/
theorem teardown_deadline_greatest :
    (underway.teardown (Scripted.idle [])).isSome = true
    ∧ (underway.withGrace 0xFFFFFFFFFFFFFFFF).settings.check = .ok ()
    ∧ (underway.withGrace 0xFFFFFFFFFFFFFFFF).teardown (Scripted.idle []) = none := by
  have sound : underway.settings.Sound :=
    ⟨⟨'p', by decide, by decide⟩, by decide, by decide, by decide +kernel, by decide⟩
  obtain ⟨ends, -, -, any⟩ :=
    teardown_deadline rfl (underway.settings.check_eq_ok_iff.mpr sound) (Scripted.idle [])
  obtain ⟨accepted, never⟩ := any 0xFFFFFFFFFFFFFFFF (by decide)
  exact ⟨ends.mpr (by decide +kernel), accepted, (never (by decide)).1⟩

end Session

end NestedSession
