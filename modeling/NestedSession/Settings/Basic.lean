import NestedSession.System.Clock

/-!
# Settings/Basic — what can be set about a session

The settings come in three sections: the program itself, the nested session, and the log files.
A setting that nobody gives has its default.
-/

namespace NestedSession

/-- Settings of the program itself. -/
structure GeneralSettings where
  /-- How much the program logs about itself. -/
  logLevel : String := "info"
  /-- How those log lines look. -/
  logFormat : String := "pretty"
  deriving DecidableEq, Repr, Inhabited

/-- Settings of the nested session. -/
structure SessionSettings where
  /-- The compositor to start. -/
  compositor : String := "phoc"
  /-- Words to put before the compositor. -/
  wrapper : List String := []
  /-- Whether the compositor may start an X server. -/
  xwayland : Bool := false
  /-- The compositor's own settings, under the source directory. -/
  compositorConfig : String := "data/phoc.ini"
  /-- What the compositor starts, under the build directory. -/
  launcher : String := "run"
  /-- What shows on standard error once the session is ready. -/
  readinessMarker : String := "Phosh ready after"
  startupTimeoutSecs : UInt64 := 5
  waitTimeoutSecs : UInt64 := 5
  pollIntervalMs : UInt64 := 1000
  shutdownTimeoutSecs : UInt64 := 10
  deriving DecidableEq, Repr, Inhabited

namespace SessionSettings

/-- How long to wait for the session to be ready. -/
def startupTimeout (s : SessionSettings) : Span := Span.ofSeconds s.startupTimeoutSecs

/-- How long to wait for output when the caller does not say. -/
def waitTimeout (s : SessionSettings) : Span := Span.ofSeconds s.waitTimeoutSecs

/-- How long to sleep between two looks at the output. -/
def pollInterval (s : SessionSettings) : Span := Span.ofMillis s.pollIntervalMs

/-- How long a session may take to end by itself. -/
def shutdownTimeout (s : SessionSettings) : Span := Span.ofSeconds s.shutdownTimeoutSecs

end SessionSettings

/-- Settings of the log files. -/
structure LogSettings where
  /-- Whether to write them. -/
  save : Bool := false
  /-- Where to write them. -/
  dir : String := "."
  deriving DecidableEq, Repr, Inhabited

/-- All settings. -/
structure Settings where
  general : GeneralSettings := {}
  session : SessionSettings := {}
  logs : LogSettings := {}
  deriving DecidableEq, Repr, Inhabited

end NestedSession
