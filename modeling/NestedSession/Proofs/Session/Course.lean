import Mathlib.Logic.Relation
import NestedSession.Proofs.Child.Steps
import NestedSession.Proofs.Waiting.Polling
import NestedSession.Session.Ending

/-!
# Proofs/Session/Course — the course of a session

A session that goes on is started, waits for output, expects it or polls, in whatever order and as
often as it likes (`Session.Step`, `Session.Course`).  Of its child nothing is asked but whether it
has ended, and what it has written; and while it is waited for, time may be let pass.  So what those
three leave as it is (`Watched.Keeps`), the whole course of a session with a child leaves as it is
(`Watched.Keeps.course`); and of the session itself nothing changes but its child, what was captured
and its clock (`Session.frame`).  A session whose start fails is given up, at one of five places
(`Session.GivenUp`).
-/

namespace NestedSession

variable {ω : Type} [Host ω]

/-- **What stays while a child is watched**: asking for its end, reading it and letting time pass
leave it as it is. -/
structure Watched.Keeps (P : Watched ω → Prop) : Prop where
  tryExit : ∀ a, P a → P a.tryExit.2
  pump : ∀ a, P a → P a.pump.2
  pause : ∀ a span, P a → P (a.withHost (Host.pause a.host span))

/-- A request that takes its markers as they are is not refused. -/
theorem WaitRequest.check_of_tolerant {request : WaitRequest} (tolerant : request.tolerant = true)
    (c : Capture) : request.check c = .ok () := by
  rw [check, stale?, if_pos tolerant]

namespace Session

/-! ## A session with a child -/

/-- A session that was given a child. -/
def having (s : Session) (child : Child) : Session := { s with child := some child }

/-- **A session has a child**, of which something holds in its world. -/
def Watches (P : Watched ω → Prop) (w : ω) (s : Session) : Prop :=
  ∃ child, s.child = some child ∧ P ⟨w, child, s.capture⟩

/-- **What never changes of a session**: all but its child, what was captured and its clock. -/
def frame (s : Session) : Session := { s with child := none, capture := .empty, clock := .steady }

/-- A waiting with a child that was not refused. -/
theorem waitForOutput_of_child {s : Session} {child : Child} (has : s.child = some child)
    {request : WaitRequest} (checked : request.check s.capture = .ok ()) (w : ω) :
    ∃ answer x, pollUntil polled request s.settings.pollInterval
        (request.timeout.getD s.settings.waitTimeout) 0
        (⟨⟨w, child, s.capture⟩, s.clock⟩ : Waited ω) = (answer, x)
      ∧ s.waitForOutput w request
        = (answer, x.host, { s.after x.toWatched with clock := x.clock }) := by
  -- the timeout is hidden, for a count of nanoseconds is nothing to compute with
  obtain ⟨timeout, same⟩ : ∃ t, request.timeout.getD s.settings.waitTimeout = t := ⟨_, rfl⟩
  rw [same, waitForOutput, has, same]
  simp only [checked]
  exact ⟨_, _, rfl, rfl⟩

/-- A waiting for what is there already. -/
theorem waitForOutput_of_refused {s : Session} {child : Child} (has : s.child = some child)
    {request : WaitRequest} {fault : SessionFault}
    (refused : request.check s.capture = .error fault) (w : ω) :
    s.waitForOutput w request = (.error fault, w, s) := by
  rw [waitForOutput, has]
  simp only [refused]

/-- Nothing is done with a session that has no child. -/
theorem waitForOutput_of_none {s : Session} (none : s.child = none) (w : ω)
    (request : WaitRequest) : s.waitForOutput w request = (.error .notSpawned, w, s) := by
  rw [waitForOutput, none]

/-- Nothing is expected of a session that has no child. -/
theorem expectOutput_of_none {s : Session} (none : s.child = none) (w : ω)
    (request : WaitRequest) : s.expectOutput w request = (.error .notSpawned, w, s) := by
  rw [expectOutput, waitForOutput_of_none none]

/-- A waiting changes nothing else of a session. -/
theorem frame_waitForOutput (s : Session) (w : ω) (request : WaitRequest) :
    (s.waitForOutput w request).2.2.frame = s.frame := by
  cases has : s.child with
  | none => rw [waitForOutput_of_none has]
  | some child =>
    cases checked : request.check s.capture with
    | error fault => rw [waitForOutput_of_refused has checked]
    | ok _ =>
      obtain ⟨answer, x, -, waited⟩ := waitForOutput_of_child has checked w
      rw [waited]
      rfl

/-- An expectation leaves what the waiting for it leaves. -/
theorem expectOutput_snd (s : Session) (w : ω) (request : WaitRequest) :
    (s.expectOutput w request).2 = (s.waitForOutput w request).2 := by
  rw [expectOutput]
  rcases s.waitForOutput w request with ⟨_ | outcome, w', s'⟩
  · rfl
  · simp only
    split <;> rfl

/-- An expectation that is met is a waiting that was satisfied. -/
theorem waitForOutput_of_expectOutput {s s' : Session} {w w' : ω} {request : WaitRequest}
    {outcome : WaitOutcome} (met : s.expectOutput w request = (.ok outcome, w', s')) :
    s.waitForOutput w request = (.ok outcome, w', s') ∧ outcome.isSatisfied = true := by
  rw [expectOutput] at met
  generalize s.waitForOutput w request = answer at met ⊢
  rcases answer with ⟨fault | found, w₁, s₁⟩
  · nomatch met
  simp only at met
  split at met
  · next satisfied =>
    obtain ⟨rfl, rfl, rfl⟩ := by simpa only [Prod.mk.injEq, Except.ok.injEq] using met
    exact ⟨rfl, satisfied⟩
  · nomatch met

theorem frame_expectOutput (s : Session) (w : ω) (request : WaitRequest) :
    (s.expectOutput w request).2.2.frame = s.frame := by
  rw [expectOutput_snd]
  exact s.frame_waitForOutput w request

/-- There is nothing to take over from a session that has no child. -/
theorem poll_of_none {s : Session} (none : s.child = none) (w : ω) :
    s.poll w = (.error .notSpawned, w, s) := by
  rw [poll, none]

theorem frame_poll (s : Session) (w : ω) : (s.poll w).2.2.frame = s.frame := by
  cases has : s.child with
  | none => rw [poll_of_none has]
  | some child =>
    rw [poll, has]
    simp only
    rcases (⟨w, child, s.capture⟩ : Watched ω).pump with ⟨_ | _, a⟩ <;> rfl

theorem frame_lastStatus (s : Session) (w : ω) : (s.lastStatus w).2.2.frame = s.frame := by
  rw [lastStatus]
  cases s.child with
  | none => rfl
  | some child =>
    simp only
    rcases (⟨w, child, s.capture⟩ : Watched ω).tryExit with ⟨_ | _, a⟩ <;> rfl

end Session

/-! ## What stays -/

namespace Watched.Keeps

open Session

variable {P : Watched ω → Prop} {w : ω} {s : Session} (h : Keeps P)
include h

theorem polled_sleep (span : Span) (x : Waited ω) (held : P x.toWatched) :
    P (Session.polled.sleep span x).toWatched := by
  rw [Session.polled]
  simp only
  split
  · exact h.pause _ _ held
  · exact held

/-- **A waiting** leaves it as it is, however it ends. -/
theorem waitForOutput (held : s.Watches P w) (request : WaitRequest) :
    (s.waitForOutput w request).2.2.Watches P (s.waitForOutput w request).2.1 := by
  obtain ⟨child, has, held⟩ := held
  cases checked : request.check s.capture with
  | error fault =>
    rw [waitForOutput_of_refused has checked]
    exact ⟨child, has, held⟩
  | ok _ =>
    obtain ⟨answer, x, polled, waited⟩ := waitForOutput_of_child has checked w
    have kept : P x.toWatched := by
      have looked := pollUntil_keeps Session.polled (P := fun x : Waited ω => P x.toWatched)
        (fun _ held => h.tryExit _ held) (fun _ held => h.pump _ held) h.polled_sleep request
        s.settings.pollInterval (request.timeout.getD s.settings.waitTimeout) 0
        (s := ⟨⟨w, child, s.capture⟩, s.clock⟩) held
      rwa [polled] at looked
    rw [waited]
    exact ⟨x.child, rfl, kept⟩

/-- A waiting that does not fail ends with a look at the child, of which it still holds. -/
theorem exists_look {child : Child} (has : s.child = some child)
    (held : P ⟨w, child, s.capture⟩) {request : WaitRequest} {outcome : WaitOutcome} {w' : ω}
    {s' : Session} (waited : s.waitForOutput w request = (.ok outcome, w', s')) :
    ∃ b : Watched ω, P b ∧ b.tryExit.1 = .ok outcome.exit?
      ∧ (∃ count, b.tryExit.2.pump.1 = .ok count) ∧ w' = b.tryExit.2.pump.2.host
      ∧ s'.child = some b.tryExit.2.pump.2.child
      ∧ s'.capture = b.tryExit.2.pump.2.capture := by
  cases checked : request.check s.capture with
  | error fault => nomatch (waitForOutput_of_refused has checked w).symm.trans waited
  | ok _ =>
    obtain ⟨answer, x, polled, waited'⟩ := waitForOutput_of_child has checked w
    obtain ⟨rfl, rfl, rfl⟩ := by simpa only [Prod.mk.injEq] using waited'.symm.trans waited
    obtain ⟨y, held, rfl, asked, count, read⟩ := pollUntil_ok Session.polled
      (P := fun x : Waited ω => P x.toWatched) (fun _ held => h.tryExit _ held)
      (fun _ held => h.pump _ held) h.polled_sleep held polled
    exact ⟨y.toWatched, held, asked, ⟨count, read⟩, rfl, rfl, rfl⟩

theorem expectOutput (held : s.Watches P w) (request : WaitRequest) :
    (s.expectOutput w request).2.2.Watches P (s.expectOutput w request).2.1 := by
  rw [expectOutput_snd]
  exact h.waitForOutput held request

theorem poll (held : s.Watches P w) : (s.poll w).2.2.Watches P (s.poll w).2.1 := by
  obtain ⟨child, has, held⟩ := held
  have pumped := h.pump _ held
  rw [Session.poll, has]
  simp only
  generalize (⟨w, child, s.capture⟩ : Watched ω).pump = read at pumped ⊢
  rcases read with ⟨_ | _, a⟩
  · exact ⟨_, rfl, pumped⟩
  · exact ⟨_, rfl, h.tryExit _ pumped⟩

theorem lastStatus (held : s.Watches P w) :
    (s.lastStatus w).2.2.Watches P (s.lastStatus w).2.1 := by
  obtain ⟨child, has, held⟩ := held
  have asked := h.tryExit _ held
  rw [Session.lastStatus, has]
  simp only
  generalize (⟨w, child, s.capture⟩ : Watched ω).tryExit = answer at asked ⊢
  rcases answer with ⟨_ | _, a⟩
  · exact ⟨_, rfl, asked⟩
  · exact ⟨_, rfl, asked⟩

end Watched.Keeps

namespace Session

/-! ## Its start -/

/-- What a child of the session is started with. -/
def childStart (s : Session) (w : ω) : Except SessionFault Child × ω :=
  Child.start w (s.launch.invocation s.childVariables) s.launch.program

/-- **Where a session is given up** that does not become ready. -/
inductive GivenUp (w : ω) (s : Session) : ω → Session → Prop
  /-- It has its child already. -/
  | already {child : Child} (has : s.child = some child) : GivenUp w s w s
  /-- Its child does not start. -/
  | unstarted {fault : SessionFault} {w₁ : ω} (none : s.child = none)
      (failed : s.childStart w = (.error fault, w₁)) : GivenUp w s w₁ s
  /-- Its waiting to become ready fails. -/
  | unwaited {child : Child} {fault : SessionFault} {w₁ w₂ : ω} {s₂ : Session}
      (none : s.child = none) (started : s.childStart w = (.ok child, w₁))
      (waited : (s.having child).waitForOutput w₁ s.readiness = (.error fault, w₂, s₂)) :
      GivenUp w s w₂ s₂
  /-- Its child ends before it is ready. -/
  | exited {child : Child} {exit : Exit} {w₁ w₂ : ω} {s₂ : Session}
      (none : s.child = none) (started : s.childStart w = (.ok child, w₁))
      (waited : (s.having child).waitForOutput w₁ s.readiness = (.ok (.exited exit), w₂, s₂)) :
      GivenUp w s w₂ s₂
  /-- The time is over; its child is asked once more. -/
  | late {child : Child} {polls : UInt32} {w₁ w₂ : ω} {s₂ : Session}
      (none : s.child = none) (started : s.childStart w = (.ok child, w₁))
      (waited : (s.having child).waitForOutput w₁ s.readiness = (.ok (.timedOut polls), w₂, s₂)) :
      GivenUp w s (s₂.lastStatus w₂).2.1 (s₂.lastStatus w₂).2.2

/-- A start, once the child is asked for. -/
theorem spawn_of_none {s : Session} (none : s.child = none) (w : ω) :
    s.spawn w = match s.childStart w with
      | (.error fault, w) => s.failWith w fault
      | (.ok child, w) =>
        match (s.having child).waitForOutput w s.readiness with
        | (.error fault, w, s) => s.failWith w fault
        | (.ok (.satisfied _), w, s) => some (.ok s, w)
        | (.ok (.exited exit), w, s) => s.failWith w (s.startupFault exit.label)
        | (.ok (.timedOut _), w, s) =>
          (s.lastStatus w).2.2.failWith (s.lastStatus w).2.1
            ((s.lastStatus w).2.2.startupFault (s.lastStatus w).1) := by
  rw [spawn, none]
  simp only
  rcases started : s.childStart w with ⟨fault | child, w₁⟩
  all_goals
    rw [childStart] at started
    simp only [started]
  rcases waited : (s.having child).waitForOutput w₁ s.readiness with ⟨answer, w₂, s₂⟩
  have waited' : Session.waitForOutput { s with child := some child } w₁
      (Session.readiness { s with child := some child }) = (answer, w₂, s₂) := waited
  rcases answer with _ | _ | _ | _ <;> simp only [waited']

/-- **A session is given up where its start fails.** -/
theorem GivenUp.spawn_eq {s s' : Session} {w w' : ω} (h : GivenUp w s w' s') :
    ∃ fault, s.spawn w = s'.failWith w' fault := by
  cases h with
  | @already child has =>
    refine ⟨.alreadySpawned child.pid, ?_⟩
    rw [spawn, has]
  | @unstarted fault _ none failed =>
    refine ⟨fault, ?_⟩
    rw [spawn_of_none none, failed]
  | @unwaited _ fault _ _ _ none started waited =>
    refine ⟨fault, ?_⟩
    simp only [spawn_of_none none, started, waited]
  | @exited _ exit _ _ _ none started waited =>
    refine ⟨s'.startupFault exit.label, ?_⟩
    simp only [spawn_of_none none, started, waited]
  | @late _ _ _ w₂ s₂ none started waited =>
    refine ⟨(s₂.lastStatus w₂).2.2.startupFault (s₂.lastStatus w₂).1, ?_⟩
    simp only [spawn_of_none none, started, waited]

/-- **The start of a session**: it had no child, was given one, and its waiting to become ready was
satisfied; or it is given up. -/
theorem spawn_cases (s : Session) (w : ω) :
    (∃ child w₁ polls w₂ s₂, s.child = none ∧ s.childStart w = (.ok child, w₁)
      ∧ (s.having child).waitForOutput w₁ s.readiness = (.ok (.satisfied polls), w₂, s₂)
      ∧ s.spawn w = some (.ok s₂, w₂))
    ∨ ∃ w₂ s₂, GivenUp w s w₂ s₂ := by
  cases has : s.child with
  | some child => exact .inr ⟨w, s, .already has⟩
  | none =>
    rcases started : s.childStart w with ⟨fault | child, w₁⟩
    · exact .inr ⟨w₁, s, .unstarted has started⟩
    rcases waited : (s.having child).waitForOutput w₁ s.readiness with
      ⟨fault | polls | exit | polls, w₂, s₂⟩
    · exact .inr ⟨w₂, s₂, .unwaited has started waited⟩
    · refine .inl ⟨child, w₁, polls, w₂, s₂, rfl, rfl, waited, ?_⟩
      simp only [spawn_of_none has, started, waited]
    · exact .inr ⟨w₂, s₂, .exited has started waited⟩
    · exact .inr ⟨_, _, .late has started waited⟩

/-- Nothing comes of a session that is given up. -/
theorem failWith_ne_ok {s s' : Session} {w w' : ω} {fault : SessionFault} :
    s.failWith w fault ≠ some (.ok s', w') := by
  rw [failWith]
  cases s.abandon w <;> simp

/-- **A session that becomes ready** had no child, was given one, and its waiting to become ready
was satisfied. -/
theorem of_spawn {s s' : Session} {w w' : ω} (ready : s.spawn w = some (.ok s', w')) :
    s.child = none ∧ ∃ child w₁ polls, s.childStart w = (.ok child, w₁)
      ∧ (s.having child).waitForOutput w₁ s.readiness = (.ok (.satisfied polls), w', s') := by
  rcases s.spawn_cases w with ⟨child, w₁, polls, w₂, s₂, none, started, waited, eq⟩
    | ⟨_, _, given⟩
  · obtain ⟨rfl, rfl⟩ : s₂ = s' ∧ w₂ = w' := by
      simpa only [Option.some.injEq, Prod.mk.injEq, Except.ok.injEq] using eq.symm.trans ready
    exact ⟨none, child, w₁, polls, started, waited⟩
  · obtain ⟨_, eq⟩ := given.spawn_eq
    exact absurd (eq.symm.trans ready) failWith_ne_ok

theorem frame_spawn {s s' : Session} {w w' : ω} (ready : s.spawn w = some (.ok s', w')) :
    s'.frame = s.frame := by
  obtain ⟨-, child, w₁, polls, -, waited⟩ := of_spawn ready
  have same := (s.having child).frame_waitForOutput w₁ s.readiness
  rwa [waited] at same

/-- A session that is given up is the one that was started. -/
theorem GivenUp.frame_eq {s s' : Session} {w w' : ω} (h : GivenUp w s w' s') :
    s'.frame = s.frame := by
  have waiting {child : Child} {w₁ w₂ : ω} {s₂ : Session} {answer : Except SessionFault WaitOutcome}
      (waited : (s.having child).waitForOutput w₁ s.readiness = (answer, w₂, s₂)) :
      s₂.frame = s.frame := by
    have same := (s.having child).frame_waitForOutput w₁ s.readiness
    rwa [waited] at same
  cases h with
  | already | unstarted => rfl
  | unwaited _ _ waited => exact waiting waited
  | exited _ _ waited => exact waiting waited
  | late _ _ waited => exact (frame_lastStatus _ _).trans (waiting waited)

/-! ## Its course -/

/-- **One step of a session that goes on**, in a world that may drift between its steps. -/
inductive Step (drift : ω → ω → Prop) : ω × Session → ω × Session → Prop
  /-- Its child is started, and becomes ready. -/
  | spawned {w w' : ω} {s s' : Session} (ready : s.spawn w = some (.ok s', w')) :
      Step drift (w, s) (w', s')
  /-- It waits for output, and goes on however that ended. -/
  | waited (w : ω) (s : Session) (request : WaitRequest) :
      Step drift (w, s) (s.waitForOutput w request).2
  /-- It expects output. -/
  | expected (w : ω) (s : Session) (request : WaitRequest) :
      Step drift (w, s) (s.expectOutput w request).2
  /-- It polls. -/
  | polled (w : ω) (s : Session) : Step drift (w, s) (s.poll w).2
  /-- Something happens in the world. -/
  | drifted {w w' : ω} (h : drift w w') (s : Session) : Step drift (w, s) (w', s)

/-- **The course of a session** that goes on. -/
abbrev Course (drift : ω → ω → Prop) : ω × Session → ω × Session → Prop :=
  Relation.ReflTransGen (Step drift)

theorem Step.frame_eq {drift : ω → ω → Prop} {x y : ω × Session} (h : Step drift x y) :
    y.2.frame = x.2.frame := by
  cases h with
  | spawned ready => exact frame_spawn ready
  | waited w s request => exact s.frame_waitForOutput w request
  | expected w s request => exact s.frame_expectOutput w request
  | polled w s => exact s.frame_poll w
  | drifted => rfl

/-- **All through its course a session is the same**, but for its child, what was captured and its
clock. -/
theorem frame_eq_of_course {drift : ω → ω → Prop} {x y : ω × Session} (run : Course drift x y) :
    y.2.frame = x.2.frame := by
  induction run with
  | refl => rfl
  | tail _ taken ih => exact taken.frame_eq.trans ih

end Session

namespace Watched.Keeps

open Session

variable {P : Watched ω → Prop} (h : Keeps P) {drift : ω → ω → Prop}
  (drifts : ∀ a w, drift a.host w → P a → P (a.withHost w)) {x y : ω × Session}
include h drifts

theorem step (taken : Step drift x y) (held : x.2.Watches P x.1) : y.2.Watches P y.1 := by
  cases taken with
  | spawned ready =>
    obtain ⟨child, has, -⟩ := held
    exact nomatch has.symm.trans (of_spawn ready).1
  | waited _ _ request => exact h.waitForOutput held request
  | expected _ _ request => exact h.expectOutput held request
  | polled _ _ => exact h.poll held
  | drifted drifted _ =>
    obtain ⟨child, has, held⟩ := held
    exact ⟨child, has, drifts _ _ drifted held⟩

/-- **All through the course of a session with a child, it stays.** -/
theorem course (run : Course drift x y) (held : x.2.Watches P x.1) : y.2.Watches P y.1 := by
  induction run with
  | refl => exact held
  | tail _ taken ih => exact h.step drifts taken ih

end Watched.Keeps

end NestedSession
