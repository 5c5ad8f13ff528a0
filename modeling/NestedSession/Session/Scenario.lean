import NestedSession.Session.Ending
import NestedSession.Session.Verdict

/-!
# Session/Scenario — one session from its beginning to its end

A scenario sets a session up, hands it to a body, and ends it whatever the body does.  It passes if
the body did its work, the end was clean, and the log has no critical line — in that order.
-/

namespace NestedSession

/-- What a scenario that passed gives. -/
structure ScenarioOutput (α : Type) where
  value : α
  report : SessionReport

/-- What a scenario does with its session: it succeeds or fails, and leaves a note either way. -/
abbrev ScenarioBody (ω α β : Type) := ω → Session → (Except SessionFault α × β) × ω × Session

/-- **The verdict on a body and a report.** -/
def verdict {α : Type} (result : Except SessionFault α) (report : SessionReport) :
    Except ScenarioFault (ScenarioOutput α) :=
  match result with
  | .error fault => .error (.body fault report)
  | .ok value =>
    if !report.clean then .error (.abnormalExit report)
    else
      let criticals := report.graded .critical
      if criticals.isEmpty then .ok ⟨value, report⟩ else .error (.criticalLines criticals report)

variable {ω : Type} [Host ω]

/-- **Run a scenario.**  The note of the body comes with the verdict if the body was run. -/
def SessionPlan.run {α β : Type} (plan : SessionPlan) (body : ScenarioBody ω α β) (w : ω) :
    Option ((Except ScenarioFault (ScenarioOutput α) × Option β) × ω) :=
  match plan.build w with
  | (.error fault, w) => some ((.error (.setup fault), none), w)
  | (.ok s, w) =>
    match s.spawn w with
    | none => none
    | some (.error fault, w) => some ((.error (.setup fault), none), w)
    | some (.ok s, w) =>
      let ((result, note), w, s) := body w s
      match s.teardown w with
      | none => none
      | some (report, w) => some ((verdict result report, some note), w)

end NestedSession
