import NestedSession.Capture.Basic
import NestedSession.Child.Exit
import NestedSession.Json.Tagged
import NestedSession.System.Path

/-!
# Session/Report — how a session ended
-/

namespace NestedSession

/-- Where the log files are. -/
structure SavedLogs where
  stdout : Path
  stderr : Path
  deriving DecidableEq, Repr, Inhabited

/-- How a session ended, and all that it wrote. -/
structure SessionReport where
  /-- How the child ended, if there was one and it is known. -/
  exit : Option Exit
  /-- Whether it ended as it should. -/
  clean : Bool
  /-- Whether it had to be killed. -/
  forced : Bool
  savedLogs : Option SavedLogs
  workDirRemoved : Bool
  stdout : String
  stderr : String
  deriving DecidableEq, Repr, Inhabited

namespace SessionReport

/-- How the child ended, in words. -/
def exitLabel (r : SessionReport) : String := Exit.labelOf r.exit

/-- The graded lines of the log. -/
def graded (r : SessionReport) (severity : Severity) : List String :=
  Text.linesWith r.stderr severity.marker

end SessionReport

/-- The places of the log files as JSON. -/
def SavedLogs.toJson (logs : SavedLogs) : Json :=
  .obj [("stdout", .str logs.stdout.shown), ("stderr", .str logs.stderr.shown)]

/-- A report as JSON. -/
def SessionReport.toJson (r : SessionReport) : Json :=
  .obj [("exit", Exit.optionToJson r.exit), ("clean", .bool r.clean), ("forced", .bool r.forced),
    ("saved_logs", (r.savedLogs.map SavedLogs.toJson).getD .null),
    ("work_dir_removed", .bool r.workDirRemoved), ("stdout", .str r.stdout),
    ("stderr", .str r.stderr)]

end NestedSession
