import NestedSession.Proofs.Session.Output
import NestedSession.Proofs.Session.Policy
import NestedSession.Proofs.Text.Lines

/-!
# Proofs/Session/Sifting — looking for a marker in the lines is looking for it in the text

The waits look for a marker in the whole text of an output, the graded lines are looked for line by
line.  The two agree for every marker that can be in a line, those of the grades among them; so what
a scenario makes of the lines of its log, it could make of the log.
-/

namespace NestedSession

namespace Text

variable {text marker : String} (nonempty : marker ≠ "") (clear : '\n' ∉ marker.toList)
  (open_ended : marker.toList.getLast? ≠ some '\r')

include nonempty clear open_ended in
/-- There is a line that holds the marker exactly if the marker is in the text. -/
theorem linesWith_ne_nil_iff_contains : linesWith text marker ≠ [] ↔ contains text marker = true :=
  (forall_linesWith_iff marker).mpr ⟨nonempty, clear, open_ended⟩ text

/-- The marker of a grade can be looked for in the whole text. -/
theorem linesWith_marker_ne_nil_iff (text : String) (severity : Severity) :
    linesWith text severity.marker ≠ [] ↔ contains text severity.marker = true := by
  cases severity with
  | critical | warning => exact linesWith_ne_nil_iff_contains (by decide) (by decide) (by decide)

end Text

variable {ω : Type} [Host ω] {α β : Type}

theorem SessionReport.isCritical_iff_contains (report : SessionReport) :
    report.IsCritical ↔ Text.contains report.stderr "-CRITICAL **" = true :=
  report.isCritical_iff.trans (Text.occurs_iff _ _).symm

namespace SessionPlan

variable {plan : SessionPlan} {body : ScenarioBody ω α β} {w w' : ω} {note : Option β}

/-- **A scenario whose body did its work and whose end was clean** is decided by its log. -/
theorem Performed.run_eq {value : α} {n : β} {report : SessionReport}
    (performed : Performed plan body w (.ok value) n report w') (clean : report.clean = true) :
    plan.run body w = some ((if Text.contains report.stderr "-CRITICAL **" = true
      then .error (.criticalLines (report.graded .critical) report)
      else .ok ⟨value, report⟩, some n), w') := by
  refine (run_eq_some_iff plan body w).mpr (.performed performed (verdict_eq_iff.mp ?_))
  split
  · next found => exact verdict_of_critical clean (report.isCritical_iff_contains.mpr found)
  · next absent => exact verdict_of_uncritical clean (mt report.isCritical_iff_contains.mp absent)

/-- **A scenario that fails for the lines of its log** did not fail for anything else, and has the
marker in its log. -/
theorem performed_of_run_critical {lines : List String} {report : SessionReport}
    (failed : plan.run body w = some ((.error (.criticalLines lines report), note), w')) :
    ∃ value n, note = some n ∧ Performed plan body w (.ok value) n report w'
      ∧ report.clean = true ∧ Text.contains report.stderr "-CRITICAL **" = true
      ∧ lines = report.graded .critical := by
  cases (run_eq_some_iff plan body w).mp failed with
  | performed performed ruled =>
    have told := verdict_eq_iff.mpr ruled
    cases ruled with
    | @critical value lines done clean critical =>
      have critical := report.isCritical_iff.mpr critical
      rw [done, verdict_of_critical clean critical] at told
      obtain rfl : report.graded .critical = lines := by simpa using told
      exact ⟨value, _, rfl, done ▸ performed, clean, report.isCritical_iff_contains.mp critical,
        rfl⟩

end SessionPlan

/-- **Looking for a marker line by line and looking for it in the whole text agree.**

* For every text and every marker that is not empty, holds no line feed and does not end in a
  carriage return: there are lines with the marker exactly if it is somewhere in the text, with
  something before it and something behind.  These lines are, in order and each once, those of the
  lines of the text that hold the marker, and none of them holds a line feed.  What the lines of a
  text are is known from the text alone.
* For any other marker, there is a text where the two do not agree.
* In a capture and in a report, the graded lines are those of a marker that the two agree on.
* So a scenario whose body did its work and whose end was clean fails exactly if the marker of a
  critical line is anywhere in the log, for the lines that hold it, and passes if it is not; and no
  other scenario fails for such lines. -/
theorem SessionPlan.linesWith_agrees_with_contains (plan : SessionPlan)
    (body : ScenarioBody ω α β) (w : ω) :
    (∀ text marker : String, marker ≠ "" → '\n' ∉ marker.toList →
      marker.toList.getLast? ≠ some '\r' →
      (Text.linesWith text marker ≠ [] ↔ Text.contains text marker = true)
      ∧ (Text.contains text marker = true ↔ ∃ before behind, before ++ marker ++ behind = text)
      ∧ (∃! lines, Text.Lined text.toList lines)
      ∧ (∀ lines, Text.Lined text.toList lines → (Text.linesWith text marker).map String.toList
        = lines.filter fun line => marker.toList <:+: line)
      ∧ ∀ line ∈ Text.linesWith text marker, '\n' ∉ line.toList)
    ∧ (∀ marker : String,
      (∀ text, Text.linesWith text marker ≠ [] ↔ Text.contains text marker = true) →
      marker ≠ "" ∧ '\n' ∉ marker.toList ∧ marker.toList.getLast? ≠ some '\r')
    ∧ (∀ severity : Severity,
      (∀ c : Capture, c.graded severity ≠ [] ↔ c.contains .stderr severity.marker = true)
      ∧ ∀ report : SessionReport,
        report.graded severity ≠ [] ↔ Text.contains report.stderr severity.marker = true)
    ∧ (∀ value note report w', Performed plan body w (.ok value) note report w' →
      report.clean = true →
      plan.run body w = some ((if Text.contains report.stderr "-CRITICAL **" = true
        then .error (.criticalLines (report.graded .critical) report)
        else .ok ⟨value, report⟩, some note), w'))
    ∧ ∀ lines report note w',
      plan.run body w = some ((.error (.criticalLines lines report), note), w') →
      ∃ value n, note = some n ∧ Performed plan body w (.ok value) n report w'
        ∧ report.clean = true ∧ Text.contains report.stderr "-CRITICAL **" = true
        ∧ lines = report.graded .critical := by
  refine ⟨fun text marker nonempty clear open_ended => ?_,
    fun marker => (Text.forall_linesWith_iff marker).mp,
    fun severity => ⟨fun c => Text.linesWith_marker_ne_nil_iff (c.text .stderr) severity,
      fun report => Text.linesWith_marker_ne_nil_iff report.stderr severity⟩,
    fun _ _ _ _ => Performed.run_eq, fun _ _ _ _ => performed_of_run_critical⟩
  have lined : Text.Lined text.toList (Text.lines text.toList) := Text.lined_iff.mpr rfl
  refine ⟨Text.linesWith_ne_nil_iff_contains nonempty clear open_ended,
    Text.contains_iff text marker, ⟨_, lined, fun _ other => other.lines_eq.symm⟩,
    fun lines other => other.lines_eq ▸ Text.toList_linesWith text marker,
    fun line held => lined.unbroken _ ?_⟩
  have shown := List.mem_map_of_mem (f := String.toList) held
  rw [Text.toList_linesWith] at shown
  exact (List.mem_filter.mp shown).1

/-- A process that becomes ready, complains twice in one line, and ends as it should. -/
def Scripted.complaining : Scripted :=
  idle
    [[.write .stderr (Utf8.encode "Phosh ready after 1s\r\n")],
      [.write .stderr (Utf8.encode "\r\nx\ry-CRITICAL ** z-CRITICAL **\r\n-WARNING **")],
      [], [], [], [], [.exit 0 []]]

/-- The log that a scenario failed for. -/
def siftedLog? : Except ScenarioFault (ScenarioOutput α) → Option String
  | .error (.criticalLines _ report) => some report.stderr
  | _ => none

/-- A body that leaves its session as it is. -/
def ScenarioBody.idle {ω : Type} : ScenarioBody ω Unit Unit := fun w s => ((.ok (), ()), w, s)

/-- Its scenario fails for the one line that holds the marker twice, with the carriage return that
is within that line and without the one at its end. -/
theorem SessionPlan.linesWith_agrees_with_contains_complaining :
    ∃ (report : SessionReport) (w' : Scripted),
      Performed Session.justBuilt.toSessionPlan .idle Scripted.complaining (.ok ()) () report w'
      ∧ report.clean = true ∧ Text.contains report.stderr "-CRITICAL **" = true
      ∧ Session.justBuilt.toSessionPlan.run .idle Scripted.complaining
        = some ((.error (.criticalLines (report.graded .critical) report), some ()), w')
      ∧ (report.graded .critical).map String.toList
        = ["x\ry-CRITICAL ** z-CRITICAL **".toList] := by
  obtain ⟨sifted, -, -, decided, critical⟩ := linesWith_agrees_with_contains
    Session.justBuilt.toSessionPlan .idle Scripted.complaining
  have run : (Session.justBuilt.toSessionPlan.run .idle Scripted.complaining).bind
      (fun r => siftedLog? r.1.1)
      = some "Phosh ready after 1s\r\n\r\nx\ry-CRITICAL ** z-CRITICAL **\r\n-WARNING **" := by
    decide +kernel
  obtain ⟨⟨⟨outcome, note⟩, w'⟩, finished, seen⟩ := Option.bind_eq_some_iff.mp run
  rcases outcome with fault | _
  case ok => nomatch seen
  cases fault with
  | setup | body | abnormalExit => nomatch seen
  | criticalLines lines report =>
    obtain ⟨_, _, -, performed, clean, found, -⟩ := critical lines report note w' finished
    obtain ⟨-, -, -, shown, -⟩ := sifted report.stderr "-CRITICAL **" (by decide) (by decide)
      (by decide)
    refine ⟨report, w', performed, clean, found, ?_, (shown _ (Text.lined_iff.mpr rfl)).trans ?_⟩
    · rw [decided _ _ report w' performed clean, if_pos found]
    · rw [show report.stderr = _ from Option.some.inj seen]
      decide +kernel

end NestedSession
