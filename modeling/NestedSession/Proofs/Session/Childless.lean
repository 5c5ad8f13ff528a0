import NestedSession.Proofs.Session.Readiness
import NestedSession.Proofs.Session.Starting

/-!
# Proofs/Session/Childless — a session before its child is started

Until it has its child, a session answers every call with the same fault and stays as it was when it
was built (`Session.eq_of_course`): nothing can be captured, for there is nothing to read.  So when
its child is there, the marker it waits for cannot be there yet, unless it is the empty one, which
is in every text (`Session.stale?_readiness`); and that one the settings may not have.  What a start
fails with is then a fault of the child or of the system, and never one of the call
(`Session.fault_of_spawn_of_unrefused`).
-/

namespace NestedSession

variable {ω : Type} [Host ω]

namespace Session

variable {drift : ω → ω → Prop} {x y : ω × Session}

/-- A session that has its child keeps one. -/
theorem child_of_step (taken : Step drift x y) (has : x.2.child ≠ none) : y.2.child ≠ none := by
  have keeps : Watched.Keeps fun _ : Watched ω => True :=
    ⟨fun _ _ => trivial, fun _ _ => trivial, fun _ _ _ => trivial⟩
  obtain ⟨child, has⟩ := Option.ne_none_iff_exists'.mp has
  obtain ⟨child, has, -⟩ := keeps.step (fun _ _ _ _ => trivial) taken ⟨child, has, trivial⟩
  exact has ▸ Option.some_ne_none child

/-- **A step that leaves a session without a child** leaves it as it is. -/
theorem Step.eq_of_none (taken : Step drift x y) (none : y.2.child = none) : y.2 = x.2 := by
  have before : x.2.child = .none := by_contra fun has => child_of_step taken has none
  cases taken with
  | spawned ready =>
    obtain ⟨-, child, w₁, polls, -, found⟩ := of_spawn ready
    exact absurd none (of_waitForOutput found).2.1
  | waited w s request => rw [waitForOutput_of_none before]
  | expected w s request => rw [expectOutput_of_none before]
  | polled w s => rw [poll_of_none before]
  | drifted => rfl

/-- **A session that has no child is as it was all along.** -/
theorem eq_of_course (run : Course drift x y) (none : y.2.child = none) : y.2 = x.2 := by
  induction run with
  | refl => rfl
  | tail earlier taken ih =>
    have same := taken.eq_of_none none
    exact same.trans (ih (same ▸ none))

/-- **Why the start of a session fails** that has no child yet and is not refused its waiting. -/
theorem fault_of_spawn_of_unrefused {s : Session} {w w' : ω} {fault : SessionFault}
    (childless : s.child = none) (unrefused : s.readiness.check s.capture = .ok ())
    (failed : s.spawn w = some (.error fault, w')) :
    (∃ why, fault = .spawn s.launch.program why)
    ∨ (∃ stream errno, fault = .nonBlocking stream errno)
    ∨ (∃ why, fault = .system why)
    ∨ ∃ status out err, fault = .startup status out err := by
  rcases fault_of_spawn failed with ⟨_, has, -⟩ | ⟨_, started⟩ | ⟨child, _, -, waited⟩
    | ⟨_, _, status, _, _, -, rfl⟩
  · nomatch has.symm.trans childless
  · rcases Child.fault_of_start started with refused | blocked
    · exact .inl refused
    · exact .inr (.inl blocked)
  · exact .inr (.inr (.inl (system_of_waitForOutput (s := s.having child) rfl unrefused waited)))
  · exact .inr (.inr (.inr ⟨status, _, _, rfl⟩))

/-- **Nothing is captured before the child is started, so nothing is there too early.**  A session
that was built and has no child yet, whatever was called on it and whatever happened in the world:

* Nothing of either output was captured, nothing waits for more octets, and neither is closed.
* At every moment on the way it was the session that was built, and every call answered that there
  is no child and left the world and the session as they were.
* The marker that is to show that it is ready is not empty, as that would be in every text; so, when
  its child is there, the waiting for that marker is not refused.
* If its start fails, wherever that happens, it fails because the child does not start or cannot be
  read without waiting, because the system refuses something, or because the session is not ready:
  never because there is no child, and never because a marker is there already. -/
theorem nothing_before_start {plan : SessionPlan} {w₀ w₁ w : ω} {s₀ s : Session}
    (built : plan.build w₀ = (.ok s₀, w₁)) {drift : ω → ω → Prop}
    (run : Course drift (w₁, s₀) (w, s)) (childless : s.child = none) :
    (∀ stream, s.capture.text stream = "" ∧ (s.capture.buffer stream).pending = []
      ∧ s.capture.isClosed stream = false)
    ∧ (∀ x, Course drift (w₁, s₀) x → Course drift x (w, s) → x.2 = s₀
      ∧ (∀ request, x.2.waitForOutput x.1 request = (.error .notSpawned, x)
        ∧ x.2.expectOutput x.1 request = (.error .notSpawned, x))
      ∧ x.2.poll x.1 = (.error .notSpawned, x))
    ∧ (s.settings.readinessMarker ≠ ""
      ∧ ∀ child, s.readiness.check (s.having child).capture = .ok ())
    ∧ ∀ (v w' : ω) (fault : SessionFault), s.spawn v = some (.error fault, w') →
      fault ≠ .notSpawned ∧ (∀ stream marker, fault ≠ .markerPresent stream marker)
      ∧ ((∃ why, fault = .spawn s.launch.program why)
        ∨ (∃ stream errno, fault = .nonBlocking stream errno)
        ∨ (∃ why, fault = .system why)
        ∨ ∃ status out err, fault = .startup status out err) := by
  obtain ⟨-, empty, -⟩ := SessionPlan.of_build built
  have sound := SessionPlan.sound_of_build built
  obtain rfl : s = s₀ := eq_of_course run childless
  have unrefused : s.readiness.check s.capture = .ok () := check_readiness sound empty
  refine ⟨fun stream => ?_, fun x _ behind => ?_, ⟨sound.readinessMarker, fun _ => unrefused⟩,
    fun v w' fault failed => ?_⟩
  · rw [empty]
    cases stream <;> exact ⟨rfl, rfl, rfl⟩
  · obtain ⟨v, t⟩ := x
    obtain rfl : s = t := eq_of_course behind childless
    exact ⟨rfl, fun request => ⟨waitForOutput_of_none childless v request,
      expectOutput_of_none childless v request⟩, poll_of_none childless v⟩
  · have known := fault_of_spawn_of_unrefused childless unrefused failed
    refine ⟨?_, fun stream marker => ?_, known⟩
    all_goals
      rcases known with ⟨_, rfl⟩ | ⟨_, _, rfl⟩ | ⟨_, rfl⟩ | ⟨_, _, _, rfl⟩ <;> nofun

/-- A session that was just built waits for what every text has, expects a marker, and polls; then
it is started, does not become ready in time, and fails for that. -/
theorem nothing_before_start_hurried : ∃ (x : Scripted × Session) (w' : Scripted),
    Course (fun _ _ => False) (lateWriter, hurried) x ∧ x.2.child = none
    ∧ x.2.capture.text .stderr = "" ∧ x.2.poll x.1 = (.error .notSpawned, x)
    ∧ x.2.spawn x.1 = some (.error (.startup "3" "" "warming up"), w') := by
  have built : hurried.toSessionPlan.build lateWriter = (.ok hurried, lateWriter) :=
    Prod.ext (by decide +kernel) rfl
  have failed : (hurried.spawn lateWriter).map Prod.fst
      = some (.error (.startup "3" "" "warming up")) := by decide +kernel
  obtain ⟨⟨_, w'⟩, failed, rfl⟩ := Option.map_eq_some_iff.mp failed
  have run : Course (fun _ _ => False) (lateWriter, hurried) (lateWriter, hurried) :=
    .tail (.tail (.single (.waited _ _ { stdout := some "", tolerant := true }))
      (.expected _ _ { stderr := some "ready" })) (.polled _ _)
  obtain ⟨captured, calls, -, -⟩ := nothing_before_start built run rfl
  exact ⟨_, w', run, rfl, (captured .stderr).1, (calls _ run .refl).2.2, failed⟩

end Session

end NestedSession
