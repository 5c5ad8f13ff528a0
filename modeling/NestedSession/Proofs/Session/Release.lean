import NestedSession.Proofs.Child.Reaping
import NestedSession.Proofs.Session.Deadline
import NestedSession.Proofs.Session.Marking

/-!
# Proofs/Session/Release — nothing outlives a session

A session takes a work directory when it is built and a child when it is started, and the books of
its host say what became of them (`Booked`).  While it goes on, the directory is there and at most
one child is unreaped (`Alive`); that is what each step of a session keeps (`Session.Owns.step`).
However it ends — torn down, dropped, or given up by a start that failed at any point — its child is
reaped once and its directory is gone (`Released`), unless the host was asked in vain.
-/

namespace NestedSession

/-! ## What the books say -/

/-- **The books of a session that goes on**: its directory was made and is there; it started no
child, or one, which was reaped once or not yet. -/
inductive Alive (dir : Path) : List Entry → Prop
  | unstarted : Alive dir [.made dir]
  | running (pid : Pid) : Alive dir [.started pid, .made dir]
  | reaped (pid : Pid) : Alive dir [.reaped pid, .started pid, .made dir]

/-- The books of a session when all that is left is its directory: its child was waited for,
perhaps in vain. -/
inductive Settled (dir : Path) : List Entry → Prop
  | unstarted : Settled dir [.made dir]
  | reaped (pid : Pid) : Settled dir [.reaped pid, .started pid, .made dir]
  | lost (pid : Pid) : Settled dir [.lost pid, .started pid, .made dir]

variable {ω : Type}

/-- **The directory goes last**, once all else is settled; it may be kept, if that is in vain. -/
def Cleared [Host ω] (dir : Path) (n : Booked ω) : Prop :=
  ∃ m : Booked ω, Settled dir m.ledger ∧ (Disk.removeTree m dir).2 = n

namespace Session

/-! ## A session that goes on -/

/-- Whatever happens in the world, nobody else has a hand in what the session owns. -/
def Undisturbed (n n' : Booked ω) : Prop := n'.ledger = n.ledger

/-- **What a session owns**: its directory, and perhaps a child whose end is entered exactly if it
is known. -/
inductive Owns (n : Booked ω) (s : Session) : Prop
  | childless (none : s.child = none) (ledger : n.ledger = [.made s.workDir])
  | parent {pid : Pid}
      (watched : s.Watches (fun a => a.Entered pid [.started pid, .made s.workDir]) n)

/-- A session of which nothing changed but what may. -/
theorem workDir_of_frame {s s' : Session} (h : s'.frame = s.frame) : s'.workDir = s.workDir :=
  show s'.frame.workDir = s.frame.workDir from congrArg workDir h

namespace Owns

variable {n n' : Booked ω} {s s' : Session}

/-- **The books of a session that goes on.** -/
theorem alive (h : s.Owns n) : Alive s.workDir n.ledger := by
  cases h with
  | childless _ ledger => exact ledger ▸ .unstarted
  | @parent pid watched =>
    obtain ⟨child, -, entered⟩ := watched
    cases entered with
    | alive _ _ ledger => exact ledger.symm ▸ .running pid
    | ended _ _ ledger => exact ledger.symm ▸ .reaped pid

/-- A session with the same directory and a child. -/
theorem of_watches {pid : Pid} {dir : Path} (same : s.workDir = dir)
    (watched : s.Watches (fun a => a.Entered pid [.started pid, .made dir]) n) : s.Owns n :=
  .parent (same.symm ▸ watched)

variable [Host ω]

/-- **A child that starts is the only one.** -/
theorem watches_of_start (h : s.Owns n) (none : s.child = none) {child : Child}
    (started : s.childStart n = (.ok child, n')) :
    (s.having child).Watches
      (fun a => a.Entered child.pid [.started child.pid, .made s.workDir]) n' := by
  cases h with
  | childless _ ledger => exact ⟨child, rfl, ledger ▸ Child.entered_of_start started s.capture⟩
  | parent watched =>
    obtain ⟨_, has, -⟩ := watched
    nomatch has.symm.trans none

/-- However the waiting to become ready ends, the session owns what it did. -/
theorem readiness (h : s.Owns n) (none : s.child = none) {child : Child} {n₁ n₂ : Booked ω}
    {s₂ : Session} {answer : Except SessionFault WaitOutcome}
    (started : s.childStart n = (.ok child, n₁))
    (waited : (s.having child).waitForOutput n₁ s.readiness = (answer, n₂, s₂)) : s₂.Owns n₂ := by
  have kept := (Watched.keeps_entered child.pid [.started child.pid, .made s.workDir]).waitForOutput
    (h.watches_of_start none started) s.readiness
  have same := (s.having child).frame_waitForOutput n₁ s.readiness
  rw [waited] at kept same
  exact of_watches (workDir_of_frame same) kept

/-- A call that needs a child, and only watches it. -/
theorem call {x y : Booked ω × Session} (h : x.2.Owns x.1)
    (idle : x.2.child = none → y = x) (same : y.2.frame = x.2.frame)
    (watching : ∀ P, Watched.Keeps P → x.2.Watches P x.1 → y.2.Watches P y.1) :
    y.2.Owns y.1 := by
  cases h with
  | childless none ledger => exact idle none ▸ .childless none ledger
  | parent watched =>
    exact of_watches (workDir_of_frame same) (watching _ (Watched.keeps_entered _ _) watched)

/-- **Every step of a session that goes on keeps what it owns.** -/
theorem step {x y : Booked ω × Session} (h : x.2.Owns x.1) (taken : Step Undisturbed x y) :
    y.2.Owns y.1 := by
  have same := taken.frame_eq
  cases taken with
  | spawned ready =>
    obtain ⟨none, child, n₁, polls, started, waited⟩ := of_spawn ready
    exact h.readiness none started waited
  | waited n s request =>
    exact h.call (fun none => congrArg Prod.snd (waitForOutput_of_none none n request)) same
      fun P keeps held => keeps.waitForOutput held request
  | expected n s request =>
    refine h.call (fun none => ?_) same fun P keeps held => keeps.expectOutput held request
    exact (s.expectOutput_snd n request).trans
      (congrArg Prod.snd (waitForOutput_of_none none n request))
  | polled n s =>
    exact h.call (fun none => congrArg Prod.snd (poll_of_none none n)) same
      fun P keeps held => keeps.poll held
  | drifted undisturbed s =>
    cases h with
    | childless none ledger => exact .childless none (undisturbed.trans ledger)
    | parent watched =>
      obtain ⟨child, has, entered⟩ := watched
      exact .parent ⟨child, has, entered.withHost undisturbed⟩

/-- **All through its course a session keeps what it owns.** -/
theorem course {x y : Booked ω × Session} (h : x.2.Owns x.1) (run : Course Undisturbed x y) :
    y.2.Owns y.1 := by
  induction run with
  | refl => exact h
  | tail _ taken ih => exact ih.step taken

end Owns

/-! ## A session that ends -/

/-- **What a session leaves when it is over**: its directory, and perhaps a child that is still to
be ended. -/
inductive Leaves (n : Booked ω) (s : Session) : Prop
  | childless (none : s.child = none) (settled : Settled s.workDir n.ledger)
  | parent {pid : Pid}
      (watched : s.Watches (fun a => a.Entered pid [.started pid, .made s.workDir]) n)

/-- A session may end at any time. -/
theorem Owns.leaves {n : Booked ω} {s : Session} (h : s.Owns n) : s.Leaves n := by
  cases h with
  | childless none ledger => exact .childless none (ledger ▸ .unstarted)
  | parent watched => exact .parent watched

section

variable [Host ω] {n n' : Booked ω} {s s' : Session}

/-- **Wherever a start fails**, nothing is left but what a session leaves. -/
theorem Owns.leaves_of_givenUp (h : s.Owns n) (given : GivenUp n s n' s') : s'.Leaves n' := by
  cases given with
  | already _ => exact h.leaves
  | unstarted none failed =>
    refine .childless none ?_
    cases h with
    | parent watched =>
      obtain ⟨_, has, -⟩ := watched
      nomatch has.symm.trans none
    | childless _ ledger =>
      have entered := Child.ledger_of_start_error failed
      rw [ledger] at entered
      rcases entered with same | ⟨pid, waited | waited⟩
      · exact same ▸ .unstarted
      · exact waited ▸ .reaped pid
      · exact waited ▸ .lost pid
  | unwaited none started waited => exact (h.readiness none started waited).leaves
  | exited none started waited => exact (h.readiness none started waited).leaves
  | @late child polls n₁ n₂ s₂ none started waited =>
    have owned := h.readiness none started waited
    refine Owns.leaves (owned.call (x := (n₂, s₂)) (y := (s₂.lastStatus n₂).2) (fun none => ?_)
      (s₂.frame_lastStatus n₂) fun P keeps held => keeps.lastStatus held)
    rw [lastStatus, none]

/-- A child that is ended leaves the directory. -/
theorem settled_of_terminate {pid : Pid} {dir : Path} {a b : Watched (Booked ω)}
    (h : a.Entered pid [.started pid, .made dir]) {grace : Span} {answer : Option Exit × Bool}
    (ended : a.terminate grace = some (answer, b)) : Settled dir b.host.ledger := by
  rcases h.terminate ended with ledger | ledger
  · exact ledger ▸ .reaped pid
  · exact ledger ▸ .lost pid

/-- **A session that is dropped** clears up. -/
theorem Leaves.abandon (h : s.Leaves n) (dropped : s.abandon n = some n') :
    Cleared s.workDir n' := by
  cases h with
  | childless none settled =>
    rw [abandon_of_none none, Option.some.injEq] at dropped
    exact ⟨n, settled, dropped⟩
  | parent watched =>
    obtain ⟨child, has, entered⟩ := watched
    rw [abandon_of_child has, Option.map_eq_some_iff] at dropped
    obtain ⟨⟨answer, b⟩, ended, removed⟩ := dropped
    exact ⟨b.host, settled_of_terminate entered ended, removed⟩

/-- The last steps of a session: whatever is done about the logs, the directory is removed. -/
theorem exists_removeTree_of_conclude (s : Session) (n : Booked ω) (exit : Option Exit)
    (forced : Bool) : ∃ n₁ : Booked ω, n₁.ledger = n.ledger
      ∧ (s.conclude n exit forced).2 = (Disk.removeTree n₁ s.workDir).2 := by
  have saved := saveLogs_keeps (P := fun n₁ : Booked ω => n₁.ledger = n.ledger)
    (fun _ _ same => same) (fun _ _ _ same => same) rfl (Utf8.encode s.logs.dir) s.capture
  rw [conclude]
  cases s.wantsLogs with
  | true => exact ⟨_, saved, rfl⟩
  | false => exact ⟨n, rfl, rfl⟩

/-- **A session that is torn down** clears up. -/
theorem Leaves.teardown (h : s.Leaves n) {report : SessionReport}
    (torn : s.teardown n = some (report, n')) : Cleared s.workDir n' := by
  cases h with
  | childless none settled =>
    rw [teardown_of_none none, Option.some.injEq] at torn
    obtain ⟨m, same, removed⟩ := s.exists_removeTree_of_conclude n .none false
    exact ⟨m, same ▸ settled, removed.symm.trans (congrArg Prod.snd torn)⟩
  | parent watched =>
    obtain ⟨child, has, entered⟩ := watched
    rw [teardown_of_child has, Option.map_eq_some_iff] at torn
    obtain ⟨⟨⟨exit, forced⟩, b⟩, ended, last⟩ := torn
    obtain ⟨m, same, removed⟩ := (s.after b).exists_removeTree_of_conclude b.host exit forced
    exact ⟨m, same ▸ settled_of_terminate entered ended,
      removed.symm.trans (congrArg Prod.snd last)⟩

/-! ## Whether it ends at all -/

/-- **The clock cannot show the deadline** for the child of a session. -/
def Stuck (w : ω) (s : Session) : Prop :=
  ∃ child, s.child = some child
    ∧ Moment.limit ≤ (s.toldAt child w).nanoseconds + s.settings.shutdownTimeout

/-- An end that is answered exactly if the clock can show the deadline for the child, if any. -/
theorem eq_none_iff_stuck {α : Type} {w : ω} {ended : Option α}
    (childless : s.child = none → ended.isSome = true)
    (parent : ∀ child, s.child = some child → (ended.isSome = true
      ↔ (s.toldAt child w).nanoseconds + s.settings.shutdownTimeout < Moment.limit)) :
    ended = none ↔ s.Stuck w := by
  rw [← Option.not_isSome_iff_eq_none]
  cases has : s.child with
  | none =>
    refine iff_of_false (not_not_intro (childless has)) ?_
    rintro ⟨_, has', -⟩
    nomatch has.symm.trans has'
  | some child =>
    rw [parent child has, Nat.not_lt]
    refine ⟨fun late => ⟨child, has, late⟩, ?_⟩
    rintro ⟨_, has', late⟩
    obtain rfl := Option.some.inj (has.symm.trans has')
    exact late

theorem teardown_eq_none_iff (w : ω) : s.teardown w = none ↔ s.Stuck w :=
  eq_none_iff_stuck (fun childless => by rw [teardown_of_none childless, Option.isSome_some])
    fun _ has => isSome_teardown_iff has w

theorem abandon_eq_none_iff (w : ω) : s.abandon w = none ↔ s.Stuck w :=
  eq_none_iff_stuck (fun childless => by rw [abandon_of_none childless, Option.isSome_some])
    fun _ has => isSome_abandon_iff has w

/-! ## Every session -/

/-- **How a session ends**, where its end begins, and the world that is left, if its end is
answered. -/
inductive Ends (w : ω) (s : Session) : ω → Session → Option ω → Prop
  /-- It is torn down. -/
  | torn : Ends w s w s ((s.teardown w).map Prod.snd)
  /-- It is dropped. -/
  | dropped : Ends w s w s (s.abandon w)
  /-- Its start fails, and it is given up. -/
  | unready {w' : ω} {s' : Session} (given : GivenUp w s w' s') : Ends w s w' s' (s'.abandon w')

/-- **However a session ends, it clears up.** -/
theorem Owns.cleared {ended : Option (Booked ω)} (h : s.Owns n) (ends : Ends n s n' s' ended) :
    ∀ last ∈ ended, Cleared s.workDir last := by
  intro last answered
  cases ends with
  | torn =>
    obtain ⟨⟨report, n₁⟩, torn, rfl⟩ := Option.map_eq_some_iff.mp answered
    exact h.leaves.teardown torn
  | dropped => exact h.leaves.abandon answered
  | unready given =>
    rw [← workDir_of_frame given.frame_eq]
    exact (h.leaves_of_givenUp given).abandon answered

end

end Session

/-- A session that is built owns the directory that was made for it. -/
theorem SessionPlan.owns_of_build [Host ω] {plan : SessionPlan} {w : ω} {n : Booked ω} {s : Session}
    (built : plan.build (.blank w) = (.ok s, n)) : s.Owns n := by
  have entered := (Booked.blank w).ledger_makeWorkDir plan.buildDir "phosh-itest-"
  rw [build] at built
  split at built
  · cases built
  generalize Disk.makeWorkDir (Booked.blank w) plan.buildDir "phosh-itest-" = answer
    at entered built
  rcases answer with ⟨_ | dir, n₁⟩
  · cases built
  obtain ⟨rfl, rfl⟩ := by simpa only [Prod.mk.injEq, Except.ok.injEq] using built
  exact .childless rfl entered

/-- A session that is not built has made nothing. -/
theorem SessionPlan.ledger_of_build_error [Host ω] {plan : SessionPlan} {w : ω} {n : Booked ω}
    {fault : SessionFault} (refused : plan.build (.blank w) = (.error fault, n)) :
    n.ledger = [] := by
  have entered := (Booked.blank w).ledger_makeWorkDir plan.buildDir "phosh-itest-"
  rw [build] at refused
  split at refused
  · obtain ⟨-, rfl⟩ := Prod.mk.inj refused
    rfl
  generalize Disk.makeWorkDir (Booked.blank w) plan.buildDir "phosh-itest-" = answer
    at entered refused
  rcases answer with ⟨_ | dir, n₁⟩
  · obtain ⟨-, rfl⟩ := Prod.mk.inj refused
    exact entered
  · cases refused

end NestedSession
