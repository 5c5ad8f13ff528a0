import NestedSession.Settings.Basic
import NestedSession.Toml.Printer

/-!
# Settings/Showing — settings as a TOML document

Every setting has its line, in the order of declaration; the whole document has a header for each
section and an empty line between two.
-/

namespace NestedSession

open Toml

/-- The lines of the program's settings. -/
def GeneralSettings.toToml (s : GeneralSettings) : List Char :=
  writeLine "log_level" (writeString s.logLevel)
    ++ writeLine "log_format" (writeString s.logFormat)

/-- The lines of the session's settings. -/
def SessionSettings.toToml (s : SessionSettings) : List Char :=
  writeLine "compositor" (writeString s.compositor)
    ++ writeLine "wrapper" (writeStrings s.wrapper)
    ++ writeLine "xwayland" (writeBool s.xwayland)
    ++ writeLine "compositor_config" (writeString s.compositorConfig)
    ++ writeLine "launcher" (writeString s.launcher)
    ++ writeLine "readiness_marker" (writeString s.readinessMarker)
    ++ writeLine "startup_timeout_secs" (writeNat s.startupTimeoutSecs.toNat)
    ++ writeLine "wait_timeout_secs" (writeNat s.waitTimeoutSecs.toNat)
    ++ writeLine "poll_interval_ms" (writeNat s.pollIntervalMs.toNat)
    ++ writeLine "shutdown_timeout_secs" (writeNat s.shutdownTimeoutSecs.toNat)

/-- The lines of the settings of the log files. -/
def LogSettings.toToml (s : LogSettings) : List Char :=
  writeLine "save" (writeBool s.save) ++ writeLine "dir" (writeString s.dir)

/-- **All settings as a document.** -/
def Settings.toToml (s : Settings) : List Char :=
  writeHeader "general" ++ s.general.toToml ++ ['\n']
    ++ writeHeader "session" ++ s.session.toToml ++ ['\n']
    ++ writeHeader "logs" ++ s.logs.toToml

end NestedSession
