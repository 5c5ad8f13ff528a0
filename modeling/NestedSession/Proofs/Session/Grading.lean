import NestedSession.Proofs.Session.Freshness
import NestedSession.Proofs.Text.Extending

/-!
# Proofs/Session/Grading — a graded line that was seen is not lost

Graded lines are looked for in all that was captured, every time anew.  What was captured is never
taken back: not by any step of a session (`Session.grows_of_course`), and not by the report, which
shows what was held back behind it (`Session.prefix_stderr_of_teardown`).  So the lines seen at one
moment go on in those seen later.
-/

namespace NestedSession

variable {ω : Type} [Host ω]

/-- **The graded lines of a log go on as what was captured does.** -/
theorem Text.Extends.graded {log log' : String} (grown : log.toList <+: log'.toList)
    (severity : Severity) :
    Extends (linesWith log severity.marker) (linesWith log' severity.marker) := by
  obtain ⟨more, whole⟩ := grown
  obtain rfl : log' = log ++ String.ofList more := by
    rw [← String.toList_inj, ← whole, String.toList_append, String.toList_ofList]
  cases severity with
  | critical | warning => exact linesWith_append log _ (by decide) (by decide)

/-! ## What was captured stays captured -/

namespace Session

theorem grows_of_course {drift : ω → ω → Prop} {x y : ω × Session} (run : Course drift x y) :
    x.2.capture.Grows y.2.capture :=
  (reads_of_course run).grows

/-- **The report shows what was captured**, and perhaps more behind it. -/
theorem prefix_stderr_of_teardown {s : Session} {w w' : ω} {report : SessionReport}
    (torn : s.teardown w = some (report, w')) :
    (s.capture.text .stderr).toList <+: report.stderr.toList :=
  prefix_text_of_teardown torn .stderr

end Session

/-- **A graded line that was seen is not lost.**

* Whatever a text is and however it goes on, the lines that hold a marker go on in those of the
  longer text: there are not fewer of them, all but the last are the same, and the last, less a
  carriage return at its end, begins the one in its place.
* So do the graded lines of a session, from any moment to any later one, whatever the session does
  and whatever happens in the world; and from any moment to the report of its end. -/
theorem Session.graded_extends :
    (∀ text more marker : String, marker ≠ "" → '\n' ∉ marker.toList →
      marker.toList.getLast? ≠ some '\r' →
      Text.Extends (Text.linesWith text marker) (Text.linesWith (text ++ more) marker))
    ∧ ∀ (severity : Severity) (drift : ω → ω → Prop) (x y : ω × Session), Course drift x y →
      Text.Extends (x.2.capture.graded severity) (y.2.capture.graded severity)
      ∧ ∀ report w', y.2.teardown y.1 = some (report, w') →
        Text.Extends (x.2.capture.graded severity) (report.graded severity) := by
  refine ⟨fun text more marker nonempty _ => Text.linesWith_append text more nonempty,
    fun severity drift x y run => ?_⟩
  have grown := grows_of_course run .stderr
  exact ⟨.graded grown severity, fun report w' torn =>
    .graded (grown.trans (prefix_stderr_of_teardown torn)) severity⟩

/-- A session whose child writes a warning up to its carriage return, and then another in parts. -/
def Session.warned : Scripted × Session :=
  (.idle [[.write .stderr (Utf8.encode "x-WARNING **\r")], [], [],
    [.write .stderr (Utf8.encode "\ny-WARN")], [], [.write .stderr (Utf8.encode "ING **")],
    [.write .stderr [0xC3]]], justBuilt.having (.fresh 7))

/-- After one poll the warning ends in its carriage return, after the second it does not, and the
report has the other warning behind it. -/
theorem Session.graded_extends_warned : ∃ (x y : Scripted × Session) (report : SessionReport),
    x = (warned.2.poll warned.1).2 ∧ y = (x.2.poll x.1).2
    ∧ (y.2.teardown y.1).map Prod.fst = some report
    ∧ x.2.capture.graded .warning = ["x-WARNING **\r"]
    ∧ y.2.capture.graded .warning = ["x-WARNING **"]
    ∧ report.graded .warning = ["x-WARNING **", "y-WARNING **\uFFFD"]
    ∧ Text.Extends (x.2.capture.graded .warning) (y.2.capture.graded .warning)
    ∧ Text.Extends (x.2.capture.graded .warning) (report.graded .warning) := by
  obtain ⟨x, first⟩ : ∃ x, x = (warned.2.poll warned.1).2 := ⟨_, rfl⟩
  obtain ⟨y, second⟩ : ∃ y, y = (x.2.poll x.1).2 := ⟨_, rfl⟩
  have shown : (x.2.capture.graded .warning, y.2.capture.graded .warning,
      (y.2.teardown y.1).map fun r => r.1.graded .warning)
      = (["x-WARNING **\r"], ["x-WARNING **"], some ["x-WARNING **", "y-WARNING **\uFFFD"]) := by
    rw [second, first]
    decide +kernel
  obtain ⟨now, then_, last⟩ := by simpa only [Prod.mk.injEq] using shown
  obtain ⟨⟨report, w'⟩, torn, last⟩ := Option.map_eq_some_iff.mp last
  obtain ⟨-, live⟩ := Session.graded_extends (ω := Scripted)
  obtain ⟨extends_, reported⟩ := live .warning (fun _ _ => False) x y
    (second ▸ .single (.polled x.1 x.2))
  exact ⟨x, y, report, first, second, congrArg (Option.map Prod.fst) torn, now, then_, last,
    extends_, reported report w' torn⟩

end NestedSession
