import NestedSession.Proofs.Session.Pairing
import NestedSession.Proofs.Session.Release
import NestedSession.Proofs.Session.SavedLogs

/-!
# Proofs/Session/Independence — the last steps of a session do not wait on each other

A session ends in three steps: its child is ended, log files are written if they are wanted, and the
work directory is removed.  Each step is made whatever came of those before it, and each entry of
the report tells of its own step alone (`Session.Reports`).  So where log files go, and whether they
can be written, is nothing that the rest of the report would show (`Session.teardown_independent`).
-/

namespace NestedSession

open Utf8

variable {ω ω' : Type}

/-- **Reports that differ at most in where the log files are.** -/
def SessionReport.SameButLogs (r r' : SessionReport) : Prop :=
  { r with savedLogs := none } = { r' with savedLogs := none }

/-- A child whose end is unknown was ordered to end. -/
theorem Watched.forced_of_terminate [Host ω] {a b : Watched ω} {grace : Span}
    {forced : Bool} (ended : a.terminate grace = some ((none, forced), b)) : forced = true := by
  rcases Watched.terminate_reaps ended with known | ⟨-, forced, -⟩
  · nomatch known
  · exact forced

namespace Session

variable {s t : Session}

/-! ## The steps of an end -/

/-- **Log files are asked for**, by the settings or by the environment. -/
def LogsAsked (s : Session) : Prop :=
  s.logs.save = true ∨ ∃ value, s.ambient.get? (encode "SAVE_TEST_LOGS") = some value ∧ value ≠ []

theorem wantsLogs_iff : s.wantsLogs = true ↔ s.LogsAsked := by
  rw [wantsLogs, Bool.or_eq_true, LogsAsked, Variables.asksForLogs, Variables.namedNonEmpty?,
    Variables.getNonEmpty?, Option.isSome_iff_exists]
  simp [Option.filter_eq_some_iff]

/-- Where the log files of a session go. -/
def logDir (s : Session) : Path := encode s.logs.dir

section

variable [Host ω] {w w' : ω} {report : SessionReport}

/-- **Log files are written**: their directory is made, then one of them, then the other. -/
def LogsWritten (w : ω) (dir : Path) (c : Capture) : Prop :=
  ∃ w₁ w₂ w₃, Disk.makeDirs w dir = (.ok (), w₁)
    ∧ Disk.replace w₁ (dir.joinText "log.stdout") (encode (c.text .stdout)) = (.ok (), w₂)
    ∧ Disk.replace w₂ (dir.joinText "log.stderr") (encode (c.text .stderr)) = (.ok (), w₃)

/-- **How the child of a session comes to its end**: how it ended, whether it was ordered to, and
the world and the capture that are left. -/
inductive ChildEnds (s : Session) (w : ω) : Option Exit → Bool → ω → Capture → Prop
  /-- There is no child. -/
  | childless (alone : s.child = none) : ChildEnds s w none false w s.capture
  /-- The child is ended. -/
  | ended {child : Child} {exit : Option Exit} {forced : Bool} {a : Watched ω}
      (has : s.child = some child)
      (terminated : (⟨w, child, s.capture⟩ : Watched ω).terminate s.settings.shutdownTimeout
        = some ((exit, forced), a)) : ChildEnds s w exit forced a.host a.capture

/-- What is left of a world when log files were written there, or not. -/
def afterLogs (s : Session) (w : ω) (c : Capture) : ω :=
  if s.wantsLogs then (saveLogs w s.logDir c).2 else w

/-- **What a report says of a session**, entry by entry. -/
structure Reports (s : Session) (w : ω) (report : SessionReport) (w' : ω) (w₁ : ω) (c : Capture) :
    Prop where
  child : s.ChildEnds w report.exit report.forced w₁ c
  /-- An end is clean if it was not forced, and is none, or one of code 0 or signal 15. -/
  clean : report.clean = true ↔ report.forced = false ∧ (report.exit = none
    ∨ report.exit = some (.exited 0) ∨ report.exit = some (.signaled 15))
  /-- If no end is known, it is clean exactly if there was no child. -/
  unknown : report.exit = none → (report.clean = true ↔ s.child = none)
  saved : report.savedLogs.isSome = true ↔ s.LogsAsked ∧ LogsWritten w₁ s.logDir c
  /-- The work directory is asked to be removed last, whatever came before. -/
  removed : ∃ answer, Disk.removeTree (s.afterLogs w₁ c) s.workDir = (answer, w')
    ∧ report.workDirRemoved = answer.isOk

/-- Log files are saved exactly if they are written. -/
theorem isSome_saveLogs_iff (w : ω) (dir : Path) (c : Capture) :
    (saveLogs w dir c).1.toOption.isSome = true ↔ LogsWritten w dir c := by
  simp only [saveLogs, LogsWritten]
  -- the names are kept folded: what they are does not matter here
  generalize dir.joinText "log.stdout" = out
  generalize dir.joinText "log.stderr" = err
  rcases Disk.makeDirs w dir with ⟨_ | _, w₁⟩
  · simp [Except.toOption]
  rcases first : Disk.replace w₁ out (encode (c.text .stdout)) with ⟨_ | _, w₂⟩
  · simp [Except.toOption, first]
  rcases second : Disk.replace w₂ err (encode (c.text .stderr)) with ⟨_ | _, w₃⟩
  · simp [Except.toOption, first, second]
  · simp [Except.toOption, first, second]

theorem isCleanEnd_iff {exit : Option Exit} {forced : Bool} :
    isCleanEnd exit forced = true ↔ forced = false ∧ (exit = none
      ∨ exit = some (.exited 0) ∨ exit = some (.signaled 15)) := by
  rw [isCleanEnd, Bool.and_eq_true, Bool.not_eq_true']
  refine and_congr_right fun _ => ?_
  rcases exit with _ | code | signal
  · simp
  · simp [Exit.isClean]
  · simp [Exit.isClean]
    rfl

/-- The last steps, entry by entry. -/
theorem conclude_eq (s : Session) (w : ω) (exit : Option Exit) (forced : Bool) :
    s.conclude w exit forced =
      ({ exit := exit
         clean := isCleanEnd exit forced
         forced := forced
         savedLogs := if s.wantsLogs then (saveLogs w s.logDir s.capture).1.toOption else none
         workDirRemoved := (Disk.removeTree (s.afterLogs w s.capture) s.workDir).1.isOk
         stdout := s.capture.flushed.text .stdout
         stderr := s.capture.flushed.text .stderr },
        (Disk.removeTree (s.afterLogs w s.capture) s.workDir).2) := by
  rw [conclude, afterLogs]
  cases s.wantsLogs <;> rfl

theorem isSome_savedLogs_iff (s : Session) (w : ω) (c : Capture) :
    (if s.wantsLogs then (saveLogs w s.logDir c).1.toOption else none).isSome = true
      ↔ s.LogsAsked ∧ LogsWritten w s.logDir c := by
  rw [← wantsLogs_iff, ← isSome_saveLogs_iff]
  cases s.wantsLogs <;> simp

/-- **Whatever fails on the way, each entry of the report tells of its own step.** -/
theorem reports_of_teardown (ended : s.teardown w = some (report, w')) :
    ∃ w₁ c, s.Reports w report w' w₁ c := by
  cases has : s.child with
  | none =>
    rw [teardown_of_none has, conclude_eq, Option.some.injEq, Prod.mk.injEq] at ended
    obtain ⟨rfl, rfl⟩ := ended
    exact ⟨w, s.capture, {
      child := .childless has
      clean := @isCleanEnd_iff none false
      unknown := fun _ => iff_of_true rfl has
      saved := s.isSome_savedLogs_iff w s.capture
      removed := ⟨_, rfl, rfl⟩ }⟩
  | some child =>
    rw [teardown_of_child has, Option.map_eq_some_iff] at ended
    obtain ⟨⟨⟨exit, forced⟩, a⟩, terminated, concluded⟩ := ended
    rw [conclude_eq, Prod.mk.injEq] at concluded
    obtain ⟨rfl, rfl⟩ := concluded
    refine ⟨a.host, a.capture, {
      child := .ended has terminated
      clean := isCleanEnd_iff
      unknown := fun unknown => ?_
      saved := s.isSome_savedLogs_iff a.host a.capture
      removed := ⟨_, rfl, rfl⟩ }⟩
    obtain rfl : exit = none := unknown
    obtain rfl := Watched.forced_of_terminate terminated
    exact iff_of_false (by simp [isCleanEnd]) (by simp [has])

end

/-! ## Two ends -/

variable [Host ω] [Host ω'] {R D : ω → ω' → Prop} {w : ω} {v : ω'}

/-- **The log files of two sessions stand apart from their work directory**: `D` is kept by whatever
becomes of log files on either side, and where it holds, the work directory can be removed on both
sides or on neither. -/
structure LogsApart (D : ω → ω' → Prop) (s t : Session) : Prop where
  makeDirs_left : ∀ {w v}, D w v → D (Disk.makeDirs w s.logDir).2 v
  replace_left : ∀ {w v}, D w v → ∀ name bs, D (Disk.replace w (s.logDir.joinText name) bs).2 v
  makeDirs_right : ∀ {w v}, D w v → D w (Disk.makeDirs v t.logDir).2
  replace_right : ∀ {w v}, D w v → ∀ name bs, D w (Disk.replace v (t.logDir.joinText name) bs).2
  removeTree : ∀ {w v}, D w v →
    (Disk.removeTree w s.workDir).1.isOk = (Disk.removeTree v s.workDir).1.isOk

/-- Writing log files, on either side or on neither, keeps the work directories alike. -/
theorem LogsApart.afterLogs (h : LogsApart D s t) (d : D w v) (c c' : Capture) :
    D (s.afterLogs w c) (t.afterLogs v c') := by
  have left : D (s.afterLogs w c) v := by
    rw [Session.afterLogs]
    split
    · exact saveLogs_keeps_in (P := fun w => D w v) (fun _ d => h.makeDirs_left d)
        (fun _ name bs d => h.replace_left d name bs) d c
    · exact d
  rw [Session.afterLogs.eq_def t]
  split
  · exact saveLogs_keeps_in (P := fun v => D _ v) (fun _ d => h.makeDirs_right d)
      (fun _ name bs d => h.replace_right d name bs) left c'
  · exact left

/-- The last steps of twins whose children ended alike. -/
theorem Paired.conclude (p : Paired R (w, s) (v, t)) (begins : ∀ w v, R w v → D w v)
    (apart : LogsApart D s t) (exit : Option Exit) (forced : Bool) :
    (s.conclude w exit forced).1.SameButLogs (t.conclude v exit forced).1 := by
  have removed := apart.removeTree
    (apart.afterLogs (begins w v p.world) s.capture t.capture)
  rw [conclude_eq, conclude_eq, SessionReport.SameButLogs, removed, p.twins.workDir,
    p.twins.capture]

/-- **Twins end alike**, but for what is said of their log files. -/
theorem Paired.teardown (h : Host.Alike R) (p : Paired R (w, s) (v, t))
    (begins : ∀ w v, R w v → D w v) (apart : LogsApart D s t) :
    Option.Rel (fun r r' => r.1.SameButLogs r'.1) (s.teardown w) (t.teardown v) := by
  cases has : s.child with
  | none =>
    rw [teardown_of_none has, teardown_of_none (p.twins.child.trans has)]
    exact .some (p.conclude begins apart none false)
  | some child =>
    rw [teardown_of_child has, teardown_of_child (p.twins.child.trans has)]
    have ended := p.terminate h child
    generalize (⟨w, child, s.capture⟩ : Watched ω).terminate s.settings.shutdownTimeout = x,
      (⟨v, child, t.capture⟩ : Watched ω').terminate t.settings.shutdownTimeout = y at ended ⊢
    obtain @⟨_, _, @⟨⟨exit, forced⟩, a, b, r⟩⟩ | _ := ended
    · have apart' : LogsApart D (s.after a) (t.after b) :=
        ⟨apart.makeDirs_left, apart.replace_left, apart.makeDirs_right, apart.replace_right,
          apart.removeTree⟩
      exact .some ((p.after r).conclude begins apart' exit forced)
    · exact .none

end Session

/-! ## A shelf for log files -/

/-- A host whose log files are on a shelf of their own, which may be full. -/
structure Shelved where
  host : Scripted
  full : Bool

namespace Shelved

/-- What comes of a log file. -/
def shelve (n : Shelved) : Except Fault Unit × Shelved :=
  (if n.full then .error (.os .noSpace) else .ok (), n)

/-- What comes of any other request. -/
def pass {α : Type} (n : Shelved) (r : α × Scripted) : α × Shelved := (r.1, { n with host := r.2 })

instance : Host Shelved where
  content n := Disk.content n.host
  makeDirs n _ := n.shelve
  replace n _ _ := n.shelve
  makeWorkDir n dir name := n.pass (Disk.makeWorkDir n.host dir name)
  removeTree n path := n.pass (Disk.removeTree n.host path)
  spawn n call := n.pass (Host.spawn n.host call)
  unblock n pid s := n.pass (Host.unblock n.host pid s)
  unread n := Host.unread n.host
  leave n pid s rest := { n with host := Host.leave n.host pid s rest }
  tryWait n pid := n.pass (Host.tryWait n.host pid)
  wait n pid := n.pass (Host.wait n.host pid)
  kill n pid sent := n.pass (Host.kill n.host pid sent)
  now n := Host.now n.host
  pause n span := { n with host := Host.pause n.host span }

/-- All but the shelves is the same. -/
def Same (n m : Shelved) : Prop := n.host = m.host

/-- A request that log files have no part in. -/
theorem Same.pass {α : Type} {n m : Shelved} (same : Same n m) (request : Scripted → α × Scripted) :
    Both Same (n.pass (request n.host)) (m.pass (request m.host)) := by
  rw [show n.host = m.host from same]
  exact .mk _ rfl

/-- Whatever is on the shelves, a child is led the same way. -/
theorem startsAlike : Host.StartsAlike Same where
  unread same pid s := congrArg (fun w : Scripted => Host.unread w pid s) same
  leave same pid s rest := congrArg (fun w : Scripted => Host.leave w pid s rest) same
  tryWait same pid := same.pass (Host.tryWait · pid)
  wait same pid := same.pass (Host.wait · pid)
  kill same pid sent := same.pass (Host.kill · pid sent)
  now same := congrArg (fun w : Scripted => Host.now w) same
  pause same span := congrArg (fun w : Scripted => Host.pause w span) same
  spawn same _ call' _ := same.pass (Host.spawn · call')
  unblock same pid s := same.pass (Host.unblock · pid s)

/-- And the shelves stand apart from every work directory. -/
theorem logsApart (s t : Session) : s.LogsApart Same t where
  makeDirs_left same := same
  replace_left same _ _ := same
  makeDirs_right same := same
  replace_right same _ _ := same
  removeTree same := congrArg (fun w : Scripted => (Disk.removeTree w s.workDir).1.isOk) same

end Shelved

namespace Session

/-- **The steps of an end do not wait on each other.**

* A session ends with a report, unless the clock cannot show the deadline for its child.  Whatever
  failed on the way, each entry of the report tells of its own step, and the removal of the work
  directory is the last request.
* Two sessions that differ in their log settings alone, and are used alike on hosts that answer
  alike, end alike: with reports that differ at most in where the log files are.  What becomes of
  the log files, on either side, has no part in that. -/
theorem teardown_independent [Host ω] [Host ω'] :
    (∀ (s : Session) (w : ω), (s.teardown w = none ↔ s.Stuck w)
      ∧ ∀ report w', s.teardown w = some (report, w') → ∃ w₁ c, s.Reports w report w' w₁ c)
    ∧ ∀ R D : ω → ω' → Prop, Host.StartsAlike R → (∀ w v, R w v → D w v) →
      ∀ x y, Abreast R x y → LogsApart D x.2 y.2 →
        Option.Rel (fun r r' => r.1.SameButLogs r'.1) (x.2.teardown x.1) (y.2.teardown y.1) :=
  ⟨fun _ w => ⟨teardown_eq_none_iff w, fun _ _ => reports_of_teardown⟩,
    fun _ _ h begins _ _ run apart => (run.paired h).teardown h.toAlike begins apart⟩

/-- The twin of a session whose settings ask for log files: the environment does, and they go
elsewhere. -/
def justBuiltElsewhere : Session :=
  { justBuilt with
    logs := { save := false, dir := "elsewhere" }
    ambient := justBuilt.ambient.insertText "SAVE_TEST_LOGS" "1" }

/-- They are started alike and end alike: the one whose shelf is full has no log files, and the
other has. -/
theorem teardown_independent_shelved :
    ∃ (x y : Shelved × Session) (r r' : SessionReport × Shelved),
      Abreast Shelved.Same x y
      ∧ x.2.teardown x.1 = some r ∧ y.2.teardown y.1 = some r'
      ∧ (∃ w₁ c, x.2.Reports x.1 r.1 r.2 w₁ c)
      ∧ r.1.savedLogs = none
      ∧ r'.1.savedLogs = some ⟨encode "elsewhere/log.stdout", encode "elsewhere/log.stderr"⟩
      ∧ r.1.SameButLogs r'.1 := by
  have twins : justBuilt.Twins justBuiltElsewhere :=
    ⟨rfl, fun key other => ((Variables.get?_insert _ _ _ key).trans (if_neg other)).symm⟩
  have full : ((justBuilt.spawn (⟨.cutShort, true⟩ : Shelved)).bind fun ready =>
      ready.1.toOption.bind fun s => (s.teardown ready.2).map fun r => r.1.savedLogs)
      = some none := by decide +kernel
  have free : ((justBuiltElsewhere.spawn (⟨.cutShort, false⟩ : Shelved)).bind fun ready =>
      ready.1.toOption.bind fun s => (s.teardown ready.2).map fun r => r.1.savedLogs)
      = some (some ⟨encode "elsewhere/log.stdout", encode "elsewhere/log.stderr"⟩) := by
    decide +kernel
  obtain ⟨⟨_ | s, w⟩, ready, full⟩ := Option.bind_eq_some_iff.mp full
  · nomatch full
  obtain ⟨⟨_ | t, v⟩, ready', free⟩ := Option.bind_eq_some_iff.mp free
  · nomatch free
  obtain ⟨r, ended, full⟩ := Option.map_eq_some_iff.mp (show (s.teardown w).map _ = _ from full)
  obtain ⟨r', ended', free⟩ := Option.map_eq_some_iff.mp (show (t.teardown v).map _ = _ from free)
  have begun : Abreast Shelved.Same ((⟨.cutShort, true⟩ : Shelved), justBuilt)
      ((⟨.cutShort, false⟩ : Shelved), justBuiltElsewhere) := .begun ⟨rfl, twins⟩
  have run : Abreast Shelved.Same (w, s) (v, t) := .spawned begun ready ready'
  obtain ⟨steps, alike⟩ := @teardown_independent Shelved Shelved _ _
  have same := alike Shelved.Same Shelved.Same Shelved.startsAlike (fun _ _ same => same)
    (w, s) (v, t) run (Shelved.logsApart s t)
  rw [ended, ended'] at same
  obtain ⟨same⟩ := same
  exact ⟨(w, s), (v, t), r, r', run, ended, ended', (steps s w).2 r.1 r.2 ended, full, free, same⟩

end Session

end NestedSession
