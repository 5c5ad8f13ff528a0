import NestedSession.Proofs.System.Pipes

/-!
# Proofs/System/Noting — a host that takes notes

A session sees a host through its answers alone.  So a host that answers as another and takes notes
besides (`Noted`) leads every session the same way, and its notes say what came of the session's
requests: how much was unread when the end of a process was told, which reads and waits failed, and
what was written to files.  Its pipes are those of the other (`Noted.later`).
-/

namespace NestedSession

/-- **One host seen through another**: `f` forgets what the first keeps beyond the second.  These
are the requests that the end of a session makes. -/
structure Host.Mirrors {ω' ω : Type} [Host ω'] [Host ω] (f : ω' → ω) : Prop where
  makeDirs : ∀ w path, Disk.makeDirs (f w) path = Prod.map id f (Disk.makeDirs w path)
  replace : ∀ w path bs, Disk.replace (f w) path bs = Prod.map id f (Disk.replace w path bs)
  removeTree : ∀ w path, Disk.removeTree (f w) path = Prod.map id f (Disk.removeTree w path)
  unread : ∀ w pid s, Host.unread (f w) pid s = Host.unread w pid s
  leave : ∀ w pid s rest, Host.leave (f w) pid s rest = f (Host.leave w pid s rest)
  tryWait : ∀ w pid, Host.tryWait (f w) pid = Prod.map id f (Host.tryWait w pid)
  wait : ∀ w pid, Host.wait (f w) pid = Prod.map id f (Host.wait w pid)
  kill : ∀ w pid sent, Host.kill (f w) pid sent = Prod.map id f (Host.kill w pid sent)
  now : ∀ w, Host.now (f w) = Host.now w
  pause : ∀ w span, Host.pause (f w) span = f (Host.pause w span)

/-- A host with notes. -/
structure Noted (ω : Type) where
  host : ω
  /-- How many octets were unread of each output when the end of its process was told, the last
  end first. -/
  told : List (Stream → Nat)
  /-- Why reads failed, and waits for the end of a process. -/
  faults : List Fault
  /-- What was written to which file, the last first. -/
  files : List (Path × Octets)

namespace Noted

variable {ω : Type}

/-- No notes yet. -/
def blank (w : ω) : Noted ω := ⟨w, [], [], []⟩

variable [Host ω]

/-- The end of a process was told. -/
def tell (n : Noted ω) (pid : Pid) : Noted ω :=
  { n with told := (fun s => octetCount (Host.unread n.host pid s)) :: n.told }

/-- **A host that takes notes**, and answers as the one it is made of. -/
instance : Host (Noted ω) where
  content n path := Disk.content n.host path
  makeDirs n path := Prod.map id (fun w => { n with host := w }) (Disk.makeDirs n.host path)
  replace n path bs :=
    match Disk.replace n.host path bs with
    | (.ok _, w) => (.ok (), { n with host := w, files := (path, bs) :: n.files })
    | (.error fault, w) => (.error fault, { n with host := w })
  makeWorkDir n dir name :=
    Prod.map id (fun w => { n with host := w }) (Disk.makeWorkDir n.host dir name)
  removeTree n path := Prod.map id (fun w => { n with host := w }) (Disk.removeTree n.host path)
  spawn n call := Prod.map id (fun w => { n with host := w }) (Host.spawn n.host call)
  unblock n pid s := Prod.map id (fun w => { n with host := w }) (Host.unblock n.host pid s)
  unread n := Host.unread n.host
  leave n pid s rest :=
    { n with
      host := Host.leave n.host pid s rest
      faults := faultsRead (Host.unread n.host pid s) rest ++ n.faults }
  tryWait n pid :=
    match Host.tryWait n.host pid with
    | (.ok (some status), w) => (.ok (some status), tell { n with host := w } pid)
    | (.ok none, w) => (.ok none, { n with host := w })
    | (.error fault, w) => (.error fault, { n with host := w })
  wait n pid :=
    match Host.wait n.host pid with
    | (.ok status, w) => (.ok status, tell { n with host := w } pid)
    | (.error fault, w) => (.error fault, { n with host := w, faults := fault :: n.faults })
  kill n pid sent := Prod.map id (fun w => { n with host := w }) (Host.kill n.host pid sent)
  now n := Host.now n.host
  pause n span := { n with host := Host.pause n.host span }

/-- Taking notes changes nothing. -/
theorem mirrors : Host.Mirrors (Noted.host (ω := ω)) where
  makeDirs _ _ := rfl
  replace n path bs := by
    rcases eq : Disk.replace n.host path bs with ⟨_ | _, w⟩ <;> simp [Disk.replace, eq]
  removeTree _ _ := rfl
  unread _ _ _ := rfl
  leave _ _ _ _ := rfl
  tryWait n pid := by
    rcases eq : Host.tryWait n.host pid with ⟨_ | _ | _, w⟩ <;> simp [Host.tryWait, eq, tell]
  wait n pid := by
    rcases eq : Host.wait n.host pid with ⟨_ | _, w⟩ <;> simp [Host.wait, eq, tell]
  kill _ _ _ := rfl
  now _ := rfl
  pause _ _ := rfl

end Noted

/-! ## Notes on pipes -/

namespace Noted

variable {ω : Type} [Piped ω]

/-- Pipes with notes are the same pipes. -/
instance : Piped (Noted ω) where
  toHost := inferInstance
  written n := Piped.written n.host
  silent n := Piped.silent n.host

theorem later {n n' : Noted ω} {pid : Pid} (h : Later n.host n'.host pid) : Later n n' pid := h

theorem host_replace (n : Noted ω) (path : Path) (bs : Octets) :
    (Disk.replace n path bs).2.host = (Disk.replace n.host path bs).2 := by
  rw [mirrors.replace]
  rfl

theorem host_tryWait (n : Noted ω) (pid : Pid) :
    (Host.tryWait n pid).2.host = (Host.tryWait n.host pid).2 := by
  rw [mirrors.tryWait]
  rfl

theorem answer_tryWait (n : Noted ω) (pid : Pid) :
    (Host.tryWait n pid).1 = (Host.tryWait n.host pid).1 := by
  rw [mirrors.tryWait]
  rfl

theorem host_wait (n : Noted ω) (pid : Pid) :
    (Host.wait n pid).2.host = (Host.wait n.host pid).2 := by
  rw [mirrors.wait]
  rfl

theorem answer_wait (n : Noted ω) (pid : Pid) :
    (Host.wait n pid).1 = (Host.wait n.host pid).1 := by
  rw [mirrors.wait]
  rfl

/-- An end that is told is noted. -/
theorem tryWait_eq_tell (n : Noted ω) {pid : Pid} {status : Int32}
    (told : (Host.tryWait n pid).1 = .ok (some status)) :
    (Host.tryWait n pid).2 = tell { n with host := (Host.tryWait n.host pid).2 } pid := by
  rw [answer_tryWait] at told
  rcases eq : Host.tryWait n.host pid with ⟨_ | _ | _, w⟩
  all_goals rw [eq] at told
  · nomatch told
  · nomatch told
  · simp [Host.tryWait, eq]

/-- Nothing else is noted when it is asked for. -/
theorem told_tryWait (n : Noted ω) {pid : Pid}
    (untold : ∀ status, (Host.tryWait n pid).1 ≠ .ok (some status)) :
    (Host.tryWait n pid).2.told = n.told := by
  rw [answer_tryWait] at untold
  rcases eq : Host.tryWait n.host pid with ⟨_ | _ | status, w⟩
  · simp [Host.tryWait, eq]
  · simp [Host.tryWait, eq]
  · exact absurd (congrArg Prod.fst eq) (untold status)

theorem wait_eq_tell (n : Noted ω) {pid : Pid} {status : Int32}
    (told : (Host.wait n pid).1 = .ok status) :
    (Host.wait n pid).2 = tell { n with host := (Host.wait n.host pid).2 } pid := by
  rw [answer_wait] at told
  rcases eq : Host.wait n.host pid with ⟨_ | _, w⟩
  all_goals rw [eq] at told
  · nomatch told
  · simp [Host.wait, eq]

/-- A wait that fails is noted. -/
theorem faults_wait (n : Noted ω) {pid : Pid} {fault : Fault}
    (failed : (Host.wait n pid).1 = .error fault) : (Host.wait n pid).2.faults ≠ [] := by
  rw [answer_wait] at failed
  rcases eq : Host.wait n.host pid with ⟨_ | _, w⟩
  all_goals rw [eq] at failed
  · simp [Host.wait, eq]
  · nomatch failed

/-- **The laws of pipes hold of pipes with notes.** -/
instance [PipeLaws ω] : PipeLaws (Noted ω) where
  makeDirs n path pid := later (PipeLaws.makeDirs n.host path pid)
  replace n path bs pid := later (host_replace n path bs ▸ PipeLaws.replace n.host path bs pid)
  removeTree n path pid := later (PipeLaws.removeTree n.host path pid)
  unblock n pid s := later (PipeLaws.unblock n.host pid s)
  kill n pid sent := later (PipeLaws.kill n.host pid sent)
  pause n span pid := later (PipeLaws.pause n.host span pid)
  tryWait n pid := later (host_tryWait n pid ▸ PipeLaws.tryWait n.host pid)
  wait n pid := later (host_wait n pid ▸ PipeLaws.wait n.host pid)
  spawn n call pid started := PipeLaws.spawn n.host call pid started
  leave n pid s rest taken split := PipeLaws.leave n.host pid s rest taken split
  tryWait_silent n pid status told := by
    rw [answer_tryWait] at told
    have silent := PipeLaws.tryWait_silent n.host pid status told
    rw [← host_tryWait] at silent
    exact silent
  wait_silent n pid status told := by
    rw [answer_wait] at told
    have silent := PipeLaws.wait_silent n.host pid status told
    rw [← host_wait] at silent
    exact silent
  ended_silent n := PipeLaws.ended_silent n.host
  ended_last n := PipeLaws.ended_last n.host
  blocked_last n := PipeLaws.blocked_last n.host

end Noted

end NestedSession
