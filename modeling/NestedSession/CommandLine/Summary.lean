import NestedSession.CommandLine.Ink
import NestedSession.CommandLine.Outcome
import NestedSession.Session.Report

/-!
# CommandLine/Summary — what a run shows when it is over
-/

namespace NestedSession

/-- What a run shows when it is over. -/
structure RunSummary where
  /-- How the session ended. -/
  report : SessionReport
  /-- How many expectations were met. -/
  met : Nat
  /-- Why the run failed, if it did. -/
  fault : Option String
  deriving DecidableEq, Repr, Inhabited

namespace RunSummary

/-- Whether the run passed. -/
def passed (s : RunSummary) : Bool := s.fault.isNone

/-- A heading with its lines below, or nothing if there are none. -/
def lineGroup (heading : String) (ink : Ink) (colours : Bool) (lines : List String) : String :=
  if lines.isEmpty then ""
  else "  " ++ heading ++ ":\n"
    ++ String.join (lines.map fun line => "    " ++ ink.paint colours line ++ "\n")

/-- **A summary for a reader.** -/
def text (s : RunSummary) (colours : Bool) : String :=
  let verdict :=
    if s.passed then Ink.good.paint colours "PASSED" else Ink.bad.paint colours "FAILED"
  s!"Session: {verdict}\n  Exit status: {s.report.exitLabel}\n"
    ++ "  Teardown: " ++ (if s.report.clean then "clean" else "unclean")
    ++ (if s.report.forced then " (killed)" else "") ++ "\n"
    ++ s!"  Expectations met: {s.met}\n"
    ++ lineGroup "Critical lines" .wrong colours (s.report.graded .critical)
    ++ lineGroup "Warning lines" .doubtful colours (s.report.graded .warning)
    ++ (match s.report.savedLogs with
      | some logs => s!"  Logs: {logs.stdout.shown}, {logs.stderr.shown}\n"
      | none => "")
    ++ (match s.fault with
      | some why => s!"  Error: {Ink.wrong.paint colours why}\n"
      | none => "")

/-- **A summary as JSON.**  What there is none of is left out. -/
def toJson (s : RunSummary) : Json :=
  .obj ([("passed", .bool s.passed), ("exit", .str s.report.exitLabel),
      ("clean", .bool s.report.clean), ("forced", .bool s.report.forced),
      ("expectations_met", .int s.met),
      ("critical_lines", .arr ((s.report.graded .critical).map .str)),
      ("warning_lines", .arr ((s.report.graded .warning).map .str))]
    ++ (s.report.savedLogs.map fun logs => ("saved_logs", logs.toJson)).toList
    ++ (s.fault.map fun why => ("error", Json.str why)).toList)

/-- **A summary in one of the formats.** -/
def render (s : RunSummary) (format : OutputFormat) (colours : Bool) : String :=
  match format with
  | .text => s.text colours
  | .json => s.toJson.pretty ++ "\n"

end RunSummary

end NestedSession
