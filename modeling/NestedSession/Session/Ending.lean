import NestedSession.Session.Basic
import NestedSession.Session.Report

/-!
# Session/Ending — starting a child, and the end of a session

A session is used up by its end: `teardown` gives a report, `abandon` gives nothing, and both end
the child and remove the work directory.  A child that does not become ready ends its session too.
Where the clock cannot show the deadline for the child's end there is no answer at all: the program
stops.
-/

namespace NestedSession

/-! ## The log files -/

variable {ω : Type} [Disk ω]

/-- **Write what was captured into a directory**, which is made if it is not there.  What still
waits for more octets is not written. -/
def saveLogs (w : ω) (dir : Path) (c : Capture) : Except Fault SavedLogs × ω :=
  match Disk.makeDirs w dir with
  | (.error fault, w) => (.error fault, w)
  | (.ok _, w) =>
    let saved : SavedLogs := ⟨dir.joinText "log.stdout", dir.joinText "log.stderr"⟩
    match Disk.replace w saved.stdout (Utf8.encode (c.text .stdout)) with
    | (.error fault, w) => (.error fault, w)
    | (.ok _, w) =>
      match Disk.replace w saved.stderr (Utf8.encode (c.text .stderr)) with
      | (.error fault, w) => (.error fault, w)
      | (.ok _, w) => (.ok saved, w)

end NestedSession

namespace NestedSession.Session

/-! ## Giving up -/

variable {ω : Type} [Host ω]

/-- **Give a session up.** -/
def abandon (s : Session) (w : ω) : Option ω :=
  match s.child with
  | none => some (Disk.removeTree w s.workDir).2
  | some child =>
    match (⟨w, child, s.capture⟩ : Watched ω).terminate s.settings.shutdownTimeout with
    | none => none
    | some (_, a) => some (Disk.removeTree a.host s.workDir).2

/-- Give a session up because of a fault. -/
def failWith (s : Session) (w : ω) (fault : SessionFault) :
    Option (Except SessionFault Session × ω) :=
  (s.abandon w).map fun w => (.error fault, w)

/-! ## Starting -/

/-- Why a session did not become ready. -/
def startupFault (s : Session) (status : String) : SessionFault :=
  .startup status (s.capture.text .stdout) (s.capture.text .stderr)

/-- How the child stands, asked once more. -/
def lastStatus (s : Session) (w : ω) : String × ω × Session :=
  match s.child with
  | none => (Exit.labelOf none, w, s)
  | some child =>
    match (⟨w, child, s.capture⟩ : Watched ω).tryExit with
    | (.ok exit, a) => (Exit.labelOf exit, a.host, s.after a)
    | (.error _, a) => (Exit.labelOf none, a.host, s.after a)

/-- **Start the child and wait until it is ready.**  A session that does not become ready is given
up. -/
def spawn (s : Session) (w : ω) : Option (Except SessionFault Session × ω) :=
  match s.child with
  | some child => s.failWith w (.alreadySpawned child.pid)
  | none =>
    match Child.start w (s.launch.invocation s.childVariables) s.launch.program with
    | (.error fault, w) => s.failWith w fault
    | (.ok child, w) =>
      let s := { s with child := some child }
      match s.waitForOutput w s.readiness with
      | (.error fault, w, s) => s.failWith w fault
      | (.ok (.satisfied _), w, s) => some (.ok s, w)
      | (.ok (.exited exit), w, s) => s.failWith w (s.startupFault exit.label)
      | (.ok (.timedOut _), w, s) =>
        let (status, w, s) := s.lastStatus w
        s.failWith w (s.startupFault status)

/-! ## The report -/

/-- Whether log files are wanted. -/
def wantsLogs (s : Session) : Bool := s.logs.save || s.ambient.asksForLogs

/-- Whether an end counts as clean. -/
def isCleanEnd (exit : Option Exit) (forced : Bool) : Bool :=
  !forced && exit.all Exit.isClean

/-- The last steps of a session whose child has ended, or that never had one. -/
def conclude (s : Session) (w : ω) (exit : Option Exit) (forced : Bool) : SessionReport × ω :=
  let (saved, w) :=
    if s.wantsLogs then
      let (answer, w) := saveLogs w (Utf8.encode s.logs.dir) s.capture
      (answer.toOption, w)
    else (none, w)
  let (removed, w) := Disk.removeTree w s.workDir
  let flushed := s.capture.flushed
  ({ exit := exit
     clean := isCleanEnd exit forced
     forced := forced
     savedLogs := saved
     workDirRemoved := removed.isOk
     stdout := flushed.text .stdout
     stderr := flushed.text .stderr }, w)

/-- **End a session.**  However its child ended, the logs are saved if they are wanted, and the work
directory is removed. -/
def teardown (s : Session) (w : ω) : Option (SessionReport × ω) :=
  match s.child with
  | none => some (s.conclude w none false)
  | some child =>
    match (⟨w, child, s.capture⟩ : Watched ω).terminate s.settings.shutdownTimeout with
    | none => none
    | some ((exit, forced), a) => some ((s.after a).conclude a.host exit forced)

end NestedSession.Session
