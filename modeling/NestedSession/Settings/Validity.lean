import NestedSession.Settings.Basic
import NestedSession.Settings.Fault
import NestedSession.Text.Blank

/-!
# Settings/Validity — which settings make sense

`Settings.check` goes through the conditions in one order and reports the first that fails.  A
session has its own check, so that settings which come from no file are checked as well.
-/

namespace NestedSession

/-- The log levels. -/
def logLevels : List String := ["trace", "debug", "info", "warn", "error"]

/-- The formats of log lines. -/
def logFormats : List String := ["json", "pretty"]

/-- Refuse a setting under a condition. -/
def refuseIf (bad : Bool) (field reason : String) : Except SettingsFault Unit :=
  if bad then .error (.invalid field reason) else .ok ()

/-- What to choose a name from. -/
def oneOfReason (names : List String) : String := "must be one of: " ++ ", ".intercalate names

namespace SessionSettings

/-- **The conditions on a session**, in the order they are checked.  An interval longer than the
startup timeout would leave no look at the output but the first. -/
def check (s : SessionSettings) : Except SettingsFault Unit := do
  refuseIf (Text.isBlankText s.compositor) "session.compositor"
    "compositor binary must not be empty"
  refuseIf s.readinessMarker.isEmpty "session.readiness_marker"
    "readiness marker must not be empty"
  refuseIf (s.pollIntervalMs == 0) "session.poll_interval_ms"
    "poll interval must be greater than 0"
  refuseIf (s.pollInterval > s.startupTimeout) "session.poll_interval_ms"
    s!"poll interval ({s.pollIntervalMs}ms) exceeds startup timeout ({s.startupTimeoutSecs}s)"
  refuseIf (s.shutdownTimeoutSecs == 0) "session.shutdown_timeout_secs"
    "shutdown timeout must be greater than 0"

end SessionSettings

namespace Settings

/-- **The conditions on all settings**, in the order they are checked. -/
def check (s : Settings) : Except SettingsFault Unit := do
  refuseIf (!logLevels.contains s.general.logLevel) "general.log_level" (oneOfReason logLevels)
  refuseIf (!logFormats.contains s.general.logFormat) "general.log_format" (oneOfReason logFormats)
  s.session.check
  refuseIf (s.logs.save && s.logs.dir.isEmpty) "logs.dir"
    "log directory must not be empty when saving logs"

end Settings

end NestedSession
