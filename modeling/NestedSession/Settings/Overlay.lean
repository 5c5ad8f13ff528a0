import NestedSession.Environment.Variables
import NestedSession.Number.Count
import NestedSession.Settings.Basic
import NestedSession.Text.Blank

/-!
# Settings/Overlay — settings from the environment

Each setting has a variable of its own, named after its section and itself.  A variable that is not
a text, or not of the setting's kind, changes nothing.
-/

namespace NestedSession

/-- The variable of a setting. -/
def settingVariable (section_ field : String) : String := s!"PHOSH_ITEST_{section_}_{field}"

/-- A truth value in words. -/
def truthOf? (text : String) : Option Bool :=
  if text = "true" then some true else if text = "false" then some false else none

namespace Variables

/-- A setting that is any text. -/
def overText (vars : Variables) (name old : String) : String := (vars.text? name).getD old

/-- A setting that is a truth value. -/
def overTruth (vars : Variables) (name : String) (old : Bool) : Bool :=
  ((vars.text? name).bind truthOf?).getD old

/-- A setting that is a count. -/
def overCount (vars : Variables) (name : String) (old : UInt64) : UInt64 :=
  ((vars.text? name).bind fun t => (Count.read t).toOption).getD old

/-- A setting that is a list of words. -/
def overWords (vars : Variables) (name : String) (old : List String) : List String :=
  ((vars.text? name).map Text.words).getD old

end Variables

/-- The program's settings under the environment. -/
def GeneralSettings.overlay (s : GeneralSettings) (vars : Variables) : GeneralSettings where
  logLevel := vars.overText (settingVariable "GENERAL" "LOG_LEVEL") s.logLevel
  logFormat := vars.overText (settingVariable "GENERAL" "LOG_FORMAT") s.logFormat

/-- The session's settings under the environment. -/
def SessionSettings.overlay (s : SessionSettings) (vars : Variables) : SessionSettings where
  compositor := vars.overText (settingVariable "SESSION" "COMPOSITOR") s.compositor
  wrapper := vars.overWords (settingVariable "SESSION" "WRAPPER") s.wrapper
  xwayland := vars.overTruth (settingVariable "SESSION" "XWAYLAND") s.xwayland
  compositorConfig :=
    vars.overText (settingVariable "SESSION" "COMPOSITOR_CONFIG") s.compositorConfig
  launcher := vars.overText (settingVariable "SESSION" "LAUNCHER") s.launcher
  readinessMarker :=
    vars.overText (settingVariable "SESSION" "READINESS_MARKER") s.readinessMarker
  startupTimeoutSecs :=
    vars.overCount (settingVariable "SESSION" "STARTUP_TIMEOUT_SECS") s.startupTimeoutSecs
  waitTimeoutSecs :=
    vars.overCount (settingVariable "SESSION" "WAIT_TIMEOUT_SECS") s.waitTimeoutSecs
  pollIntervalMs :=
    vars.overCount (settingVariable "SESSION" "POLL_INTERVAL_MS") s.pollIntervalMs
  shutdownTimeoutSecs :=
    vars.overCount (settingVariable "SESSION" "SHUTDOWN_TIMEOUT_SECS") s.shutdownTimeoutSecs

/-- The settings of the log files under the environment. -/
def LogSettings.overlay (s : LogSettings) (vars : Variables) : LogSettings where
  save := vars.overTruth (settingVariable "LOGS" "SAVE") s.save
  dir := vars.overText (settingVariable "LOGS" "DIR") s.dir

/-- **All settings under the environment.** -/
def Settings.overlay (s : Settings) (vars : Variables) : Settings where
  general := s.general.overlay vars
  session := s.session.overlay vars
  logs := s.logs.overlay vars

end NestedSession
