import NestedSession.Fault
import NestedSession.Session.Fault
import NestedSession.Session.Report

/-!
# Session/Verdict — why a scenario failed, and what its callers make of it

A scenario fails before its session is ready, in its body, or because of what the report shows.
-/

namespace NestedSession

/-- A session's fault for callers that deal with more than sessions. -/
def SessionFault.toShared : SessionFault → SharedFault
  | settings fault => .settings fault
  | system fault => .system fault
  | other => .session other.text

/-- Why a scenario failed. -/
inductive ScenarioFault where
  /-- The session did not get ready. -/
  | setup (fault : SessionFault)
  /-- The body failed. -/
  | body (fault : SessionFault) (report : SessionReport)
  /-- The session did not end as it should. -/
  | abnormalExit (report : SessionReport)
  /-- The log has critical lines. -/
  | criticalLines (lines : List String) (report : SessionReport)
  deriving DecidableEq, Repr, Inhabited

namespace ScenarioFault

/-- The text of a fault. -/
def text : ScenarioFault → String
  | setup fault => fault.text
  | body fault _ => "scenario body failed: " ++ fault.text
  | abnormalExit report => "teardown was not clean: exit status: " ++ report.exitLabel
  | criticalLines lines _ => criticalText lines.length lines

/-- The text of the fault behind a fault. -/
def source : ScenarioFault → Option String
  | setup fault => fault.source
  | body fault _ => some fault.text
  | _ => none

/-- The report, if the session got as far as ending. -/
def report? : ScenarioFault → Option SessionReport
  | setup _ => none
  | body _ report | abnormalExit report | criticalLines _ report => some report

/-- A scenario's fault for callers that deal with more than scenarios. -/
def toShared : ScenarioFault → SharedFault
  | setup fault | body fault _ => fault.toShared
  | abnormalExit report => .abnormalExit ("exit status: " ++ report.exitLabel)
  | criticalLines lines _ => .criticalLines lines.length lines

end ScenarioFault

end NestedSession
