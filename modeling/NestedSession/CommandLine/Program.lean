import NestedSession.CommandLine.Ink
import NestedSession.CommandLine.Reading
import NestedSession.CommandLine.SettingsReport

/-!
# CommandLine/Program — doing what a command line asks for

The program logs about itself in one of two formats, through one receiver for the whole process.  A
command about settings takes the defaults for its own log; a run takes the settings it has loaded,
so settings that cannot be used end it before anything is logged.
-/

namespace NestedSession

/-- **Set up the program's own log.**  `taken` says that the process has a receiver already. -/
def startLogging (format : String) (taken : Bool) : Except String Unit :=
  let installed (name : String) : Except String Unit :=
    if taken then
      .error (s!"failed to initialize {name} tracing subscriber: "
        ++ "a global default trace dispatcher has already been set")
    else .ok ()
  match format with
  | "json" => installed "JSON"
  | "pretty" => installed "pretty"
  | other => .error s!"unknown log format '{other}', expected 'json' or 'pretty'"

/-- **Whether colours are wanted**: they are forced, or they are not refused and there is a
terminal to show them on. -/
def Variables.wantColours (vars : Variables) (terminal : Bool) : Bool :=
  if (vars.text? "CLICOLOR_FORCE").any (· != "0") then true
  else if (vars.text? "NO_COLOR").isSome then false
  else terminal && (vars.text? "CLICOLOR").all (· != "0")

/-- The program's own log, at the level that the command line asks for. -/
def GeneralSettings.startLog (general : GeneralSettings) (level : Option String) :
    Except CommandFault Unit :=
  let general := { general with logLevel := level.getD general.logLevel }
  match startLogging general.logFormat false with
  | .ok () => .ok ()
  | .error why => .error (.command ("failed to initialize logging: " ++ why))

variable {ω : Type} [Host ω]

/-- **Do what a command line asks for.**  A session that is held is looked at `patience` times. -/
def ProgramRequest.perform (q : ProgramRequest) (vars : Variables) (colours : Bool)
    (patience : Nat) (w : ω) : Option (CommandOutcome × ω) :=
  let content := Disk.content w q.settings
  let aboutSettings (outcome : CommandOutcome) : Option (CommandOutcome × ω) :=
    match ({} : GeneralSettings).startLog q.logLevel with
    | .error fault => some (.failure fault, w)
    | .ok () => some (outcome, w)
  match q.command with
  | .validateSettings =>
    aboutSettings (NestedSession.validateSettings q.settings content vars q.output colours)
  | .showSettings part =>
    aboutSettings (NestedSession.showSettings q.settings content vars part q.output colours)
  | .run request =>
    match Settings.effective q.settings content vars with
    | .error fault => some (.failure fault, w)
    | .ok settings =>
      match settings.general.startLog q.logLevel with
      | .error fault => some (.failure fault, w)
      | .ok () => runSession request settings vars q.output colours patience w

namespace CommandOutcome

/-- What is said about a command that failed. -/
def complaint (o : CommandOutcome) (colours : Bool) : String :=
  match o.result with
  | .ok () => ""
  | .error fault => Ink.bad.paint colours "error:" ++ " " ++ fault.text ++ "\n"

/-- The code the program ends with. -/
def exitCode (o : CommandOutcome) : Nat :=
  match o.result with
  | .ok () => 0
  | .error fault => fault.exitCode

end CommandOutcome

end NestedSession
