import NestedSession.CommandLine.Summary
import NestedSession.Session.Scenario
import NestedSession.Settings.Basic

/-!
# CommandLine/Run — running one session from the command line

A run is a scenario whose body waits for the expectations, one after the other, and may then hold
the session until its child ends or the user has had enough.
-/

namespace NestedSession

/-- What to run. -/
structure RunRequest where
  sourceDir : Path
  buildDir : Path
  /-- Variables for the child, later ones winning. -/
  assignments : List (String × String) := []
  /-- Log domains whose debug output is wanted. -/
  debugDomains : List String := []
  expectStdout : List String := []
  expectStderr : List String := []
  /-- Seconds to wait for each expectation. -/
  timeout : Option UInt64 := none
  hold : Bool := false
  saveLogs : Bool := false
  deriving DecidableEq, Repr, Inhabited

namespace RunRequest

/-- **The variables that win over all others**: the log domains, and then what is asked for. -/
def overrides (r : RunRequest) : Variables :=
  let domains :=
    if r.debugDomains.isEmpty then Variables.empty
    else Variables.empty.insertText "G_MESSAGES_DEBUG" (" ".intercalate r.debugDomains)
  r.assignments.foldl (fun vars (name, value) => vars.insertText name value) domains

/-- **The expectations**: each is waited for alone, those on standard output first, and what was
written before counts. -/
def expectations (r : RunRequest) : List WaitRequest :=
  let timeout := r.timeout.map Span.ofSeconds
  r.expectStdout.map (fun m => { stdout := some m, timeout := timeout, tolerant := true })
    ++ r.expectStderr.map fun m => { stderr := some m, timeout := timeout, tolerant := true }

/-- The settings of the log files for a run. -/
def logSettings (r : RunRequest) (logs : LogSettings) : LogSettings :=
  { logs with save := logs.save || r.saveLogs }

/-- The session of a run. -/
def plan (r : RunRequest) (settings : Settings) (ambient : Variables) : SessionPlan where
  sourceDir := r.sourceDir
  buildDir := r.buildDir
  overrides := r.overrides
  settings := settings.session
  logs := r.logSettings settings.logs
  ambient := ambient

end RunRequest

variable {ω : Type} [Host ω]

/-- **Wait for expectations**, one after the other, and count those that are met. -/
def meetAll (w : ω) (s : Session) : List WaitRequest → Nat →
    (Except SessionFault Unit × Nat) × ω × Session
  | [], met => ((.ok (), met), w, s)
  | r :: rest, met =>
    match s.expectOutput w r with
    | (.error fault, w, s) => ((.error fault, met), w, s)
    | (.ok _, w, s) => meetAll w s rest (met + 1)

/-- **Hold a session** until its child has ended, or the user has had enough of so many looks. -/
def holdOn (w : ω) (s : Session) : Nat → Except SessionFault Unit × ω × Session
  | 0 => (.ok (), w, s)
  | patience + 1 =>
    match s.poll w with
    | (.error fault, w, s) => (.error fault, w, s)
    | (.ok (some _), w, s) => (.ok (), w, s)
    | (.ok none, w, s) => holdOn (Host.pause w s.settings.pollInterval) s patience

/-- What a run does with its session. -/
def RunRequest.body (r : RunRequest) (patience : Nat) : ScenarioBody ω Unit Nat := fun w s =>
  match meetAll w s r.expectations 0 with
  | ((.error fault, met), w, s) => ((.error fault, met), w, s)
  | ((.ok _, met), w, s) =>
    if r.hold then
      let (result, w, s) := holdOn w s patience
      ((result, met), w, s)
    else ((.ok (), met), w, s)

/-- **Run a session and show how it went.**  A session that did not become ready is not shown. -/
def runSession (r : RunRequest) (settings : Settings) (ambient : Variables)
    (format : OutputFormat) (colours : Bool) (patience : Nat) (w : ω) :
    Option (CommandOutcome × ω) :=
  match (r.plan settings ambient).run (r.body patience) w with
  | none => none
  | some ((.ok output, met), w) =>
    some (⟨.ok (), RunSummary.render ⟨output.report, met.getD 0, none⟩ format colours⟩, w)
  | some ((.error fault, met), w) =>
    let shown := match fault.report? with
      | some report => RunSummary.render ⟨report, met.getD 0, some fault.text⟩ format colours
      | none => ""
    some (⟨.error fault.toCommand, shown⟩, w)

end NestedSession
