import NestedSession.Rehearsal.Program.Table
import NestedSession.Rehearsal.Stage
import NestedSession.System.Host

/-!
# Rehearsal/Hosting — a stage as the host of sessions

A stage answers all that a session asks of its system, so a whole session can be played in memory.
Every stage has the usual programs in `/usr/bin`; a file that is put there by hand cannot be run
unless it is said so.
-/

namespace NestedSession.Rehearsal

namespace Stage

/-! ## The first files -/

/-- The place of a path from the root. -/
def placeOf (path : String) : Place := Path.parts (Utf8.encode path)

/-- The directories of every stage. -/
def firstDirs : List String :=
  ["/dev", "/dev/fd", "/etc", "/home", "/opt", "/proc", "/root", "/run", "/srv", "/sys", "/tmp",
    "/usr", "/usr/bin", "/usr/lib", "/usr/local", "/usr/local/bin", "/usr/sbin", "/usr/share",
    "/var", "/var/tmp"]

/-- The links of every stage. -/
def firstLinks : List (String × String) :=
  [("/bin", "usr/bin"), ("/sbin", "usr/sbin"), ("/lib", "usr/lib")]

/-- The devices of every stage. -/
def firstDevices : List (String × Device) :=
  [("/dev/null", .null), ("/dev/zero", .zero), ("/dev/full", .full),
    ("/dev/stdin", .descriptor 0), ("/dev/stdout", .descriptor 1), ("/dev/stderr", .descriptor 2)]
  ++ (List.range 10).map fun n => ("/dev/fd/" ++ toString n, .descriptor n)

/-- The time at which every stage begins. -/
def firstTime : Nat := 1760000000 * 1000000000

/-- The files of a stage with nothing but programs. -/
def firstFiles : Files :=
  let t : Files := { Files.empty with clock := firstTime }
  let t := firstDirs.foldl (fun t dir => t.put (placeOf dir) .directory 493) t
  let t := firstLinks.foldl (fun t (path, target) =>
    t.put (placeOf path) (.link (Utf8.encode target)) 511) t
  let t := firstDevices.foldl (fun t (path, d) => t.put (placeOf path) (.device d) 438) t
  let users := Utf8.encode "root:x:0:0:root:/root:/bin/sh\n"
  let t := t.put (placeOf "/etc/passwd") (.plain users) 420
  Program.names.foldl (fun t name =>
    t.put (placeOf "/usr/bin" ++ [Utf8.encode name]) (.plain (Program.content name)) 493) t

/-- **An empty stage**, with a directory to work in. -/
def empty (cwd : Place) : Stage where
  machine :=
    { files := ((firstFiles.makeDirs [] (Path.ofParts true cwd)).toOption).getD firstFiles
      processes := []
      opened := []
      pipes := []
      nextNumber := 0
      nextPid := 4001 }
  roles := []
  cwd := cwd
  made := 0

/-- A stage with other files. -/
def withFiles (st : Stage) (files : Files) : Stage :=
  { st with machine := { st.machine with files := files } }

/-! ## Files -/

/-- A fault for a path that no system call can take. -/
def refusal? (p : Path) : Option Fault :=
  if p.contains 0 then some (.other "file name contained an unexpected NUL byte") else none

/-- Change the files, if the path can be taken. -/
def change (st : Stage) (p : Path) (f : Files → Except Errno Files) : Except Fault Unit × Stage :=
  match refusal? p with
  | some fault => (.error fault, st)
  | none =>
    match f st.files with
    | .ok files => (.ok (), st.withFiles files)
    | .error e => (.error (.os e), st)

/-- The letters and digits of fresh names. -/
def nameLetters : List Char := "abcdefghijklmnopqrstuvwxyz0123456789".toList

/-- A fresh name's last part: six letters or digits. -/
def freshPart : Nat → Nat → List Char
  | 0, _ => []
  | digits + 1, n => freshPart digits (n / 36) ++ [nameLetters.getD (n % 36) 'a']

/-- **Make a fresh directory**, named from the working directory on if need be. -/
def makeFresh (st : Stage) (under : Path) (start : String) : Except Fault Path × Stage :=
  let base := Path.join (Path.ofPlace st.cwd) under
  let p := base.joinText (start ++ String.ofList (freshPart 6 st.made))
  match refusal? p with
  | some fault => (.error (.atPath fault p), st)
  | none =>
    match st.files.makeDir st.cwd p 448 with
    | .ok files => (.ok p, { st.withFiles files with made := st.made + 1 })
    | .error e => (.error (.atPath (.os e) p), { st with made := st.made + 1 })

/-- Remove a directory with all below it. -/
def removeAll (st : Stage) (p : Path) : Except Fault Unit × Stage :=
  st.change p fun files => do
    let place ← files.placeOfLink? st.cwd p
    match files.at? place with
    | none => .error .noEntry
    | some node =>
      if node.isDirectory then .ok (files.remove place) else .error .notDirectory

/-- Read a whole file. -/
def contentOf (st : Stage) (p : Path) : Except Fault Octets :=
  match refusal? p with
  | some fault => .error fault
  | none => (st.files.read st.cwd p).mapError .os

/-! ## Children -/

/-- A process of the session, which reads nothing and writes into pipes of its own. -/
def enter (m : Machine) (cwd : Place) : Pid × Machine :=
  let pid := m.nextPid
  let process : Process :=
    { parent := 0, group := pid, descriptors := [], reserved := [], cwd, mask := Files.usualMask
      niceness := 0, ignored := [], caught := [], pending := [], wakes := none, stopped := false
      held := [], status := none }
  let m := { m with processes := m.processes ++ [(pid, process)], nextPid := pid + 1 }
  let (_, m) := m.openFile pid (Utf8.encode "/dev/null") .reading
  let addPipe (m : Machine) (s : Stream) : Machine :=
    let number := m.nextNumber
    let m := { m with
      pipes := (number, .toOutside pid s) :: m.pipes
      nextNumber := number + 1 }
    (m.install pid ⟨.pipe number true, 0, false, false, true⟩).2
  (pid, addPipe (addPipe m .stdout) .stderr)

/-- **Start a child of the session**, with a pipe for each output. -/
def welcome (st : Stage) (call : Invocation) : Except Fault Pid × Stage :=
  if !call.isSound then (.error (.other "nul byte found in provided data"), st)
  else
    let words := (call.program :: call.arguments).map Latin.text
    let environment := call.vars.entries.map fun (name, value) =>
      (Latin.text name, Latin.text value)
    let path := (environment.lookup "PATH").getD Program.usualPath
    match Program.find st.files st.cwd path words false with
    | .error e => (.error (.os e), st)
    | .ok (name, words) =>
      let (pid, m) := enter st.machine st.cwd
      let role := Program.play (.whole Company.depth) name ⟨words, environment⟩ .done
      (.ok pid, ({ st with machine := m, roles := st.roles ++ [(pid, role)] }).advance 0)

/-- The pipe of an output of a child. -/
def pipe? (st : Stage) (pid : Pid) (s : Stream) : Option (Nat × Pipe) :=
  st.machine.pipes.find? fun (_, p) => p.outside == some (pid, s)

/-- The most times that a reader empties a pipe before it has read all that it may. -/
def drawLimit : Nat := drainLimit / Pipe.usual.capacity

/-- **Empty a pipe**, again and again as long as it was full: those who wait for room in it go on
at once, and may fill it anew. -/
def draw (number : Nat) : Nat → Stage → Octets × Stage
  | 0, st => ([], st)
  | times + 1, st =>
    match st.machine.pipes.lookup number with
    | none => ([], st)
    | some p =>
      let st := { st with machine := st.machine.alterPipe number Pipe.emptied }
      if p.size < p.capacity then (p.content, st)
      else
        let (more, st) := draw number times (st.advance 0)
        (p.content ++ more, st)

/-- Whether nothing will come out of a pipe any more. -/
def isOver (st : Stage) (number : Nat) : Bool :=
  (st.machine.pipes.lookup number).all (·.size == 0) && !st.machine.hasEnd number true

/-- What reads of an output would give now: what was written, also by those who waited for room, and
the end if no one can write any more. -/
def readable (st : Stage) (pid : Pid) (s : Stream) : List Piece :=
  match st.pipe? pid s with
  | none => [.ended]
  | some (number, _) =>
    let (bs, st) := draw number drawLimit st
    (if bs.isEmpty then [] else [.octets bs]) ++ (if st.isOver number then [.ended] else [])

/-- Keep what was not read of an output. -/
def keep (st : Stage) (pid : Pid) (s : Stream) (pieces : List Piece) : Stage :=
  match st.pipe? pid s with
  | none => st
  | some (number, _) =>
    let (_, st) := draw number drawLimit st
    let left := pieces.flatMap fun
      | .octets bs => bs
      | _ => []
    { st with machine := st.machine.alterPipe number (·.putBack left) }

/-- Collect the status of a child that has ended. -/
def collect (st : Stage) (pid : Pid) : Option Int32 × Stage :=
  match (st.machine.process? pid).bind (·.status) with
  | some status =>
    let processes := st.machine.processes.filter (·.1 != pid)
    (some status, { st with machine := { st.machine with processes } })
  | none => (none, st)

/-- **Ask for the status of a child.** -/
def askStatus (st : Stage) (pid : Pid) : Except Fault (Option Int32) × Stage :=
  if (st.machine.process? pid).isNone then (.error (.os .noChild), st)
  else
    let (status, st) := st.collect pid
    (.ok status, st)

/-- Wait for the status of a child; one that outlives the stage has none. -/
def awaitStatus (st : Stage) (pid : Pid) : Except Fault Int32 × Stage :=
  match st.collect pid with
  | (some status, st) => (.ok status, st)
  | (none, st) =>
    match (st.advance (3600 * 1000000000)).collect pid with
    | (some status, st) => (.ok status, st)
    | (none, st) => (.error (.os .noChild), st)

/-- Send a signal, and play on. -/
def strike (st : Stage) (pid : Pid) (sent : Signal) : Except Errno Unit × Stage :=
  match st.machine.process? pid with
  | none => (.error .noProcess, st)
  | some _ => (.ok (), ({ st with machine := st.machine.send pid sent.number }).advance 0)

end Stage

instance : Disk Stage where
  content := Stage.contentOf
  makeDirs st p := st.change p fun files => files.makeDirs st.cwd p
  replace st p content := st.change p fun files => files.write st.cwd p content
  makeWorkDir := Stage.makeFresh
  removeTree := Stage.removeAll

/-- **A stage is a host.** -/
instance : Host Stage where
  spawn := Stage.welcome
  unblock st _ _ := (.ok (), st)
  unread := Stage.readable
  leave := Stage.keep
  tryWait := Stage.askStatus
  wait := Stage.awaitStatus
  kill := Stage.strike
  now st := ⟨st.files.clock⟩
  pause := Stage.advance

end NestedSession.Rehearsal
