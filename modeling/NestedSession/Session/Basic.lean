import NestedSession.Child.Process
import NestedSession.Environment.Layers
import NestedSession.Settings.Validity
import NestedSession.Waiting.Poll

/-!
# Session/Basic — a nested session, and what can be asked of it

A session has a work directory of its own from the start and one child at most.  Waiting takes time
from a clock that may be a mere count (`WaitClock.tally`); looking at the output takes none.
-/

namespace NestedSession

/-- What the pauses of a waiting take time from. -/
inductive WaitClock where
  /-- The steady clock of the host. -/
  | steady
  /-- A count of what was asked for; no time passes. -/
  | tally (count : SleepTally)
  deriving DecidableEq, Repr, Inhabited

/-- What a session is to be. -/
structure SessionPlan where
  /-- Where the compositor's settings are looked for. -/
  sourceDir : Path
  /-- Where the work directory is made, and where the launcher is. -/
  buildDir : Path
  /-- Variables for the child that win over all others. -/
  overrides : Variables := .empty
  settings : SessionSettings := {}
  logs : LogSettings := {}
  /-- The variables around the program. -/
  ambient : Variables := .empty
  clock : WaitClock := .steady
  deriving DecidableEq, Repr, Inhabited

/-- A nested session. -/
structure Session extends SessionPlan where
  /-- Its own directory, which goes when the session goes. -/
  workDir : Path
  /-- Where the compositor is to listen. -/
  socket : Path
  child : Option Child
  capture : Capture
  deriving DecidableEq, Repr, Inhabited

namespace SessionPlan

variable {ω : Type} [Disk ω]

/-- **Set up a session.**  Its settings are checked before anything is made. -/
def build (plan : SessionPlan) (w : ω) : Except SessionFault Session × ω :=
  match plan.settings.check with
  | .error why => (.error (.settings why), w)
  | .ok _ =>
    match Disk.makeWorkDir w plan.buildDir "phosh-itest-" with
    | (.error fault, w) => (.error (.workDir plan.buildDir fault), w)
    | (.ok dir, w) =>
      (.ok
        { toSessionPlan := plan
          workDir := dir
          socket := dir.joinText "wayland-socket"
          child := none
          capture := .empty }, w)

end SessionPlan

namespace Session

/-- The words that start the child. -/
def launch (s : Session) : Launch := .ofSettings s.settings s.sourceDir s.buildDir s.socket

/-- The backend of the child. -/
def backend (s : Session) : Backend := s.ambient.backend

/-- The variables of the child. -/
def childVariables (s : Session) : Variables :=
  s.ambient.layered s.buildDir s.backend s.overrides

/-- What the session waits for when it starts. -/
def readiness (s : Session) : WaitRequest :=
  { stderr := some s.settings.readinessMarker, timeout := some s.settings.startupTimeout }

/-- Whether something was written to standard output. -/
def hasWritten (s : Session) (needle : String) : Bool := s.capture.contains .stdout needle

/-- A list of quoted names and values, in braces. -/
def quotedVariables (vars : Variables) : String :=
  "\x7b" ++ ", ".intercalate (vars.entries.map fun (name, value) =>
    Text.quoted (Utf8.lossy name) ++ ": " ++ Text.quoted (Utf8.lossy value)) ++ "\x7d"

/-- A session in words. -/
def text (s : Session) : String :=
  let pid := match s.child with
    | some child => s!"Some({child.pid})"
    | none => "None"
  "Session \x7b source_dir: " ++ Text.quotedOctets s.sourceDir
    ++ ", build_dir: " ++ Text.quotedOctets s.buildDir
    ++ ", socket: " ++ Text.quotedOctets s.socket
    ++ ", overrides: " ++ quotedVariables s.overrides ++ ", pid: " ++ pid ++ ", .. \x7d"

/-! ## Waiting -/

variable {ω : Type} [Host ω]

/-- A child that is watched, and the clock its pauses come from. -/
structure Waited (ω : Type) extends Watched ω where
  clock : WaitClock

/-- The child as something that can be polled. -/
def polled : Source (Waited ω) where
  tryExit s :=
    let (answer, a) := s.toWatched.tryExit
    (answer, { s with toWatched := a })
  pump s :=
    let (answer, a) := s.toWatched.pump
    (answer, { s with toWatched := a })
  capture s := s.capture
  sleep span s :=
    match s.clock with
    | .steady => { s with host := Host.pause s.host span }
    | .tally count => { s with clock := .tally (count.sleep span) }

/-- A session after its child was watched. -/
def after (s : Session) (a : Watched ω) : Session :=
  { s with child := some a.child, capture := a.capture }

/-- **Wait for output.**  That the time is over or the child has ended is no fault. -/
def waitForOutput (s : Session) (w : ω) (request : WaitRequest) :
    Except SessionFault WaitOutcome × ω × Session :=
  match s.child with
  | none => (.error .notSpawned, w, s)
  | some child =>
    match request.check s.capture with
    | .error fault => (.error fault, w, s)
    | .ok _ =>
      let (answer, a) := pollUntil polled request s.settings.pollInterval
        (request.timeout.getD s.settings.waitTimeout) 0 ⟨⟨w, child, s.capture⟩, s.clock⟩
      (answer, a.host, { s.after a.toWatched with clock := a.clock })

/-- **Expect output**: as `waitForOutput`, but an end without success is a fault that names the
marker to blame. -/
def expectOutput (s : Session) (w : ω) (request : WaitRequest) :
    Except SessionFault WaitOutcome × ω × Session :=
  match s.waitForOutput w request with
  | (.error fault, w, s) => (.error fault, w, s)
  | (.ok outcome, w, s) =>
    if outcome.isSatisfied then (.ok outcome, w, s)
    else
      let (stream, marker) := request.blamed s.capture
      (.error (.unmet stream marker outcome.text), w, s)

/-- **Take over what the child has written**, and ask whether it has ended. -/
def poll (s : Session) (w : ω) : Except SessionFault (Option Exit) × ω × Session :=
  match s.child with
  | none => (.error .notSpawned, w, s)
  | some child =>
    match (⟨w, child, s.capture⟩ : Watched ω).pump with
    | (.error fault, a) => (.error fault, a.host, s.after a)
    | (.ok _, a) =>
      let (answer, a) := a.tryExit
      (answer, a.host, s.after a)

end Session

end NestedSession
