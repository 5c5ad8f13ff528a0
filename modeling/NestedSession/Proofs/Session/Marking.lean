import NestedSession.Proofs.Session.Course
import NestedSession.Proofs.Session.Echoing

/-!
# Proofs/Session/Marking — a session is built and waits on a host that remembers

If its settings pass their check, a session is not built only where there is no work directory
(`SessionPlan.failed_build`); and if it has a child and waits for nothing that is there already, its
waiting ends unless something fails (`Session.failed_waitForOutput`).  Either leaves a mark, and the
end of the session does not take it away (`Host.Keeps.teardown`, `Host.Keeps.abandon`).
-/

namespace NestedSession

/-! ## What no request changes -/

namespace Host.Keeps

variable {ω : Type} [Host ω] {P : ω → Prop} (h : Host.Keeps P)
include h

theorem conclude {s : Session} {w : ω} (held : P w) (exit : Option Exit) (forced : Bool) :
    P (s.conclude w exit forced).2 :=
  s.conclude_keeps h.makeDirs h.replace h.removeTree held exit forced

/-- **The end of a session**, with a report or without. -/
theorem teardown {s : Session} {w w' : ω} {report : SessionReport} (held : P w)
    (ended : s.teardown w = some (report, w')) : P w' := by
  cases known : s.child with
  | none =>
    rw [Session.teardown_of_none known, Option.some.injEq] at ended
    obtain rfl : (s.conclude w none false).2 = w' := congrArg Prod.snd ended
    exact h.conclude held none false
  | some child =>
    rw [Session.teardown_of_child known, Option.map_eq_some_iff] at ended
    obtain ⟨⟨⟨exit, forced⟩, b⟩, terminated, concluded⟩ := ended
    obtain rfl : ((s.after b).conclude b.host exit forced).2 = w' := congrArg Prod.snd concluded
    exact h.conclude (h.terminate held terminated) exit forced

theorem abandon {s : Session} {w w' : ω} (held : P w) (ended : s.abandon w = some w') : P w' := by
  cases known : s.child with
  | none =>
    rw [Session.abandon_of_none known, Option.some.injEq] at ended
    exact ended ▸ h.removeTree w s.workDir held
  | some child =>
    rw [Session.abandon_of_child known, Option.map_eq_some_iff] at ended
    obtain ⟨⟨⟨exit, forced⟩, b⟩, terminated, removed⟩ := ended
    exact removed ▸ h.removeTree b.host s.workDir (h.terminate held terminated)

end Host.Keeps

/-! ## Marks -/

section

variable {ω : Type} [Host ω]

/-- **A session that is not built leaves a mark**, if its settings pass their check. -/
theorem SessionPlan.failed_build {plan : SessionPlan} (accepted : plan.settings.check = .ok ())
    {n : Marked ω} {fault : SessionFault} (failed : (plan.build n).1 = .error fault) :
    (plan.build n).2.failed = true := by
  have marked {why : Fault} : (Disk.makeWorkDir n plan.buildDir "phosh-itest-").1 = .error why →
      (Disk.makeWorkDir n plan.buildDir "phosh-itest-").2.failed = true := Marked.failed_mark
  rw [build, accepted] at failed ⊢
  simp only at failed ⊢
  generalize Disk.makeWorkDir n plan.buildDir "phosh-itest-" = answer at marked failed ⊢
  rcases answer with ⟨_ | _, _⟩
  · exact marked rfl
  · cases failed

/-- What was built has no child yet and has captured nothing. -/
theorem SessionPlan.of_build {plan : SessionPlan} {w w' : ω} {s : Session}
    (built : plan.build w = (.ok s, w')) :
    s.child = none ∧ s.capture = .empty ∧ s.toSessionPlan = plan := by
  rw [build] at built
  split at built
  · cases built
  · split at built
    · cases built
    · obtain rfl := Except.ok.inj (congrArg Prod.fst built)
      exact ⟨rfl, rfl, rfl⟩

namespace Session

variable {s : Session} {request : WaitRequest}

/-- A session that waits keeps its child. -/
theorem child_waitForOutput (present : s.child ≠ none) (w : ω) (request : WaitRequest) :
    (s.waitForOutput w request).2.2.child ≠ none := by
  obtain ⟨child, known⟩ := Option.ne_none_iff_exists'.mp present
  rw [waitForOutput, known]
  simp only
  cases request.check s.capture with
  | error _ => exact present
  | ok _ => exact Option.some_ne_none _

/-- **A waiting that fails leaves a mark**, if there is a child and nothing to wait for is there
already. -/
theorem failed_waitForOutput (present : s.child ≠ none)
    (checked : request.check s.capture = .ok ()) {n : Marked ω} {fault : SessionFault}
    (failed : (s.waitForOutput n request).1 = .error fault) :
    (s.waitForOutput n request).2.1.failed = true := by
  obtain ⟨child, has⟩ := Option.ne_none_iff_exists'.mp present
  obtain ⟨answer, x, ended, waited⟩ := waitForOutput_of_child has checked n
  rw [waited] at failed ⊢
  have marked := pollUntil_error polled (P := fun x : Waited (Marked ω) => x.host.failed = true)
    (fun _ _ refused => Watched.failed_tryExit refused)
    (fun _ _ refused => Watched.failed_pump refused) request s.settings.pollInterval _ 0
    ((congrArg Prod.fst ended).trans failed)
  rwa [ended] at marked

end Session

end

end NestedSession
