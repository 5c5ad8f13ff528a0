import NestedSession.Proofs.Child.Marking
import NestedSession.Proofs.Session.Mirroring
import NestedSession.Proofs.Waiting.Polling
import NestedSession.Session.Scenario

/-!
# Proofs/Session/Echoing — a session is the same on a host that echoes another

What a session asks for from its start to its end, a host that answers as another answers the same:
the session is built (`SessionPlan.build_map`), its child is started (`Session.spawn_map`), it waits
(`Session.waitForOutput_map`), and so a whole scenario goes the same way (`SessionPlan.run_map`).
-/

namespace NestedSession

variable {ω' ω : Type} [Host ω'] [Host ω] {f : ω' → ω} (h : Host.Echoes f)
include h

theorem SessionPlan.build_map (plan : SessionPlan) (w : ω') :
    plan.build (f w) = Prod.map id f (plan.build w) := by
  rw [build, build]
  cases plan.settings.check with
  | error _ => rfl
  | ok _ =>
    simp only [h.makeWorkDir]
    rcases Disk.makeWorkDir w plan.buildDir "phosh-itest-" with ⟨_ | _, _⟩ <;> rfl

/-- What is polled is the same on both. -/
theorem Session.polled_mirrors :
    polled.Mirrors polled fun x : Waited ω' => (⟨x.toWatched.map f, x.clock⟩ : Waited ω) where
  tryExit x := by
    simp only [polled, Watched.tryExit_map h.toMirrors]
    rfl
  pump x := by
    simp only [polled, Watched.pump_map h.toMirrors]
    rfl
  capture _ := rfl
  sleep span x := by
    simp only [polled]
    cases x.clock with
    | steady => simp only [Watched.map, h.pause]
    | tally _ => rfl

/-- **A session waits the same way** on both. -/
theorem Session.waitForOutput_map (s : Session) (w : ω') (request : WaitRequest) :
    s.waitForOutput (f w) request
      = Prod.map id (Prod.map f id) (s.waitForOutput w request) := by
  -- the timeout is hidden, for a count of nanoseconds is nothing to compute with
  obtain ⟨timeout, same⟩ : ∃ t, request.timeout.getD s.settings.waitTimeout = t := ⟨_, rfl⟩
  rw [waitForOutput, waitForOutput, same]
  cases s.child with
  | none => rfl
  | some child =>
    cases request.check s.capture with
    | error _ => rfl
    | ok _ =>
      have waits := (polled_mirrors h).pollUntil_eq request s.settings.pollInterval timeout 0
        ⟨⟨w, child, s.capture⟩, s.clock⟩
      rw [Watched.map] at waits
      simp only [waits]
      rfl

theorem Session.lastStatus_map (s : Session) (w : ω') :
    s.lastStatus (f w) = Prod.map id (Prod.map f id) (s.lastStatus w) := by
  rw [lastStatus, lastStatus]
  cases s.child with
  | none => rfl
  | some child =>
    have asked := Watched.tryExit_map h.toMirrors ⟨w, child, s.capture⟩
    rw [Watched.map] at asked
    simp only [asked]
    rcases (⟨w, child, s.capture⟩ : Watched ω').tryExit with ⟨_ | _, _⟩ <;> rfl

theorem Session.failWith_map (s : Session) (w : ω') (fault : SessionFault) :
    s.failWith (f w) fault = (s.failWith w fault).map (Prod.map id f) := by
  rw [failWith, failWith, abandon_map h.toMirrors, Option.map_map, Option.map_map]
  rfl

theorem Session.expectOutput_map (s : Session) (w : ω') (request : WaitRequest) :
    s.expectOutput (f w) request = Prod.map id (Prod.map f id) (s.expectOutput w request) := by
  rw [expectOutput, expectOutput, waitForOutput_map h]
  rcases s.waitForOutput w request with ⟨_ | outcome, _, _⟩
  · rfl
  · simp only [Prod.map, id_eq]
    split <;> rfl

theorem Session.poll_map (s : Session) (w : ω') :
    s.poll (f w) = Prod.map id (Prod.map f id) (s.poll w) := by
  rw [poll, poll]
  cases s.child with
  | none => rfl
  | some child =>
    have pumped := Watched.pump_map h.toMirrors ⟨w, child, s.capture⟩
    rw [Watched.map] at pumped
    simp only [pumped]
    rcases (⟨w, child, s.capture⟩ : Watched ω').pump with ⟨_ | _, a⟩
    · rfl
    · simp only [Prod.map, id_eq, Watched.tryExit_map h.toMirrors]
      rfl

/-- **A session starts the same way** on both. -/
theorem Session.spawn_map (s : Session) (w : ω') :
    s.spawn (f w) = (s.spawn w).map (Prod.map id f) := by
  rw [spawn, spawn]
  cases s.child with
  | some child => exact failWith_map h ..
  | none =>
    simp only [Child.start_map h]
    rcases Child.start w (s.launch.invocation s.childVariables) s.launch.program with
      ⟨_ | child, w₁⟩
    · exact failWith_map h ..
    · simp only [Prod.map, id_eq, waitForOutput_map h]
      rcases Session.waitForOutput { s with child := some child } w₁
        (Session.readiness { s with child := some child }) with ⟨_ | _ | _ | _, w₂, s₂⟩
      · exact failWith_map h ..
      · rfl
      · exact failWith_map h ..
      · simp only [lastStatus_map h]
        exact failWith_map h ..

theorem SessionPlan.run_map {α β : Type} (plan : SessionPlan) {body' : ScenarioBody ω' α β}
    {body : ScenarioBody ω α β}
    (same : ∀ w s, body (f w) s = Prod.map id (Prod.map f id) (body' w s)) (w : ω') :
    plan.run body (f w) = (plan.run body' w).map (Prod.map id f) := by
  rw [run, run, build_map h]
  rcases plan.build w with ⟨_ | s, w₁⟩
  · rfl
  · simp only [Prod.map, id_eq, Session.spawn_map h]
    rcases s.spawn w₁ with _ | ⟨_ | s₁, w₂⟩
    · rfl
    · rfl
    · simp only [Option.map_some, Prod.map, id_eq, same, Session.teardown_map h.toMirrors]
      rcases (body' w₂ s₁).2.2.teardown (body' w₂ s₁).2.1 with _ | ⟨_, _⟩ <;> rfl

end NestedSession
