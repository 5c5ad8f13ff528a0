import NestedSession.Proofs.Child.Telling
import NestedSession.Proofs.Session.Echoing
import NestedSession.Proofs.Session.Freshness
import NestedSession.Proofs.Session.Marking

/-!
# Proofs/Session/Starting — what a start that fails reports of its child

A session that does not become ready reports how its child stands and what was captured of it
(`Session.Unready`).  Its child's end becomes known in one of two ways.  If the waiting sees it, the
outputs are read once more and nothing is missing.  If the time is over first, the child is asked
once more but not read, so what it wrote behind the last look is missing from the report, although
its end is told (`Session.Unready.exists_told`).
-/

namespace NestedSession

open Utf8

/-! ## Why a session is not ready -/

/-- Whether a fault says that a session did not become ready. -/
def SessionFault.isStartup : SessionFault → Bool
  | startup _ _ _ => true
  | _ => false

section

variable {ω : Type} [Host ω]

/-- A child that does not start was refused by the system, or cannot be read without waiting. -/
theorem Child.fault_of_start {w w' : ω} {call : Invocation} {program : String}
    {fault : SessionFault} (failed : start w call program = (.error fault, w')) :
    (∃ why, fault = .spawn program why) ∨ ∃ stream errno, fault = .nonBlocking stream errno := by
  rcases of_start_error failed with ⟨why, -, rfl⟩ | ⟨_, _, _, -, unblocked, -⟩
  · exact .inl ⟨why, rfl⟩
  · obtain ⟨_, stream, errno, -, rfl⟩ := of_unblockAll_error unblocked
    exact .inr ⟨stream, errno, rfl⟩

/-- A child that does not start has another fault. -/
theorem Child.isStartup_of_start {w : ω} {call : Invocation} {program : String}
    {fault : SessionFault} (failed : (start w call program).1 = .error fault) :
    fault.isStartup = false := by
  obtain ⟨_, rfl⟩ | ⟨_, _, rfl⟩ := fault_of_start (Prod.ext failed rfl) <;> rfl

namespace Session

variable {s s' : Session} {w w' : ω}

theorem isStartup_of_waitForOutput {request : WaitRequest} {fault : SessionFault}
    (failed : (s.waitForOutput w request).1 = .error fault) : fault.isStartup = false := by
  obtain rfl | ⟨_, _, rfl⟩ | ⟨_, rfl⟩ := fault_of_waitForOutput failed <;> rfl

/-- A status that is told after the time was over is that of an end. -/
theorem lastStatus_of_known {child : Child} (has : s.child = some child)
    (known : (s.lastStatus w).1 ≠ "none") :
    ∃ exit, (⟨w, child, s.capture⟩ : Watched ω).tryExit.1 = .ok (some exit)
      ∧ s.lastStatus w = (exit.label, (⟨w, child, s.capture⟩ : Watched ω).tryExit.2.host,
          s.after (⟨w, child, s.capture⟩ : Watched ω).tryExit.2) := by
  rw [lastStatus, has] at known ⊢
  simp only at known ⊢
  generalize (⟨w, child, s.capture⟩ : Watched ω).tryExit = answer at known ⊢
  rcases answer with ⟨_ | _ | exit, a⟩
  · exact absurd rfl known
  · exact absurd rfl known
  · exact ⟨exit, rfl, rfl⟩

/-- **A session that does not become ready**: its child was started, and the waiting saw its end, or
the time was over and it was asked once more. -/
inductive Unready (w : ω) (s : Session) (child : Child) : WaitOutcome → String → ω → Session → Prop
  /-- The waiting saw the end of the child. -/
  | exited {exit : Exit} {w₁ w₂ : ω} {s₂ : Session}
      (started : s.childStart w = (.ok child, w₁))
      (waited : (s.having child).waitForOutput w₁ s.readiness = (.ok (.exited exit), w₂, s₂)) :
      Unready w s child (.exited exit) exit.label w₂ s₂
  /-- The time was over; the child is asked once more. -/
  | late {polls : UInt32} {w₁ w₂ : ω} {s₂ : Session}
      (started : s.childStart w = (.ok child, w₁))
      (waited : (s.having child).waitForOutput w₁ s.readiness = (.ok (.timedOut polls), w₂, s₂)) :
      Unready w s child (.timedOut polls) (s₂.lastStatus w₂).1 (s₂.lastStatus w₂).2.1
        (s₂.lastStatus w₂).2.2

/-- **If the time was over**, all is as it was then, and the child is asked once more. -/
theorem Unready.of_late {child child' : Child} {outcome : WaitOutcome} {status : String}
    {polls : UInt32} {w₁ w₂ : ω} {s₁ s₂ : Session} (h : s.Unready w child outcome status w' s₂)
    (started : s.childStart w = (.ok child', w₁))
    (waited : (s.having child').waitForOutput w₁ s.readiness = (.ok (.timedOut polls), w₂, s₁)) :
    child = child' ∧ outcome = .timedOut polls ∧ (status, w', s₂) = s₁.lastStatus w₂ := by
  cases h with
  | exited started' waited' =>
    cases started'.symm.trans started
    cases waited'.symm.trans waited
  | late started' waited' =>
    cases started'.symm.trans started
    cases waited'.symm.trans waited
    exact ⟨rfl, rfl, rfl⟩

/-- **Why a start fails**: the session has its child already, or its child does not start, or its
waiting to become ready fails, or it does not become ready. -/
theorem fault_of_spawn {fault : SessionFault} (failed : s.spawn w = some (.error fault, w')) :
    (∃ child, s.child = some child ∧ fault = .alreadySpawned child.pid)
    ∨ (∃ w₁, s.childStart w = (.error fault, w₁))
    ∨ (∃ child w₁, s.childStart w = (.ok child, w₁)
      ∧ ((s.having child).waitForOutput w₁ s.readiness).1 = .error fault)
    ∨ ∃ child outcome status w₂ s₂, s.Unready w child outcome status w₂ s₂
      ∧ fault = s₂.startupFault status := by
  have given {why : SessionFault} {w₂ : ω} {s₂ : Session}
      (failed : s₂.failWith w₂ why = some (.error fault, w')) : fault = why := by
    rw [failWith, Option.map_eq_some_iff] at failed
    obtain ⟨_, -, eq⟩ := failed
    exact (Except.error.inj (congrArg Prod.fst eq)).symm
  rcases s.spawn_cases w with ⟨_, _, _, _, _, -, -, -, ready⟩ | ⟨w₂, s₂, up⟩
  · cases ready.symm.trans failed
  cases up with
  | @already child has =>
    rw [spawn, has] at failed
    exact .inl ⟨child, has, given failed⟩
  | unstarted has started =>
    simp only [spawn_of_none has, started] at failed
    exact .inr (.inl ⟨_, given failed ▸ started⟩)
  | unwaited has started waited =>
    simp only [spawn_of_none has, started, waited] at failed
    exact .inr (.inr (.inl ⟨_, _, started, given failed ▸ congrArg Prod.fst waited⟩))
  | exited has started waited =>
    simp only [spawn_of_none has, started, waited] at failed
    exact .inr (.inr (.inr ⟨_, _, _, _, _, .exited started waited, given failed⟩))
  | late has started waited =>
    simp only [spawn_of_none has, started, waited] at failed
    exact .inr (.inr (.inr ⟨_, _, _, _, _, .late started waited, given failed⟩))

/-- **Only such a session is reported as not ready**, with what was captured then. -/
theorem of_spawn_startup {status out err : String}
    (failed : s.spawn w = some (.error (.startup status out err), w')) :
    ∃ child outcome w₂ s₂, s.Unready w child outcome status w₂ s₂
      ∧ out = s₂.capture.text .stdout ∧ err = s₂.capture.text .stderr := by
  rcases fault_of_spawn failed with ⟨_, -, other⟩ | ⟨_, started⟩ | ⟨_, _, -, waited⟩
    | ⟨child, outcome, status', w₂, s₂, unready, same⟩
  · nomatch other
  · nomatch Child.isStartup_of_start (congrArg Prod.fst started)
  · nomatch isStartup_of_waitForOutput waited
  · obtain ⟨rfl, rfl, rfl⟩ := SessionFault.startup.inj same
    exact ⟨child, outcome, w₂, s₂, unready, rfl, rfl⟩

end Session

end

/-! ## What the report has -/

namespace Watched

variable {ω : Type} [Piped ω] {pid : Pid} {a : Watched ω}

/-- **What was captured of a child begins what it wrote**, and is all of it exactly if nothing is
unread, where that does not end in the middle of a character. -/
theorem Tracked.text_eq_lossy_iff (h : a.Tracked pid) (t : Stream) :
    (a.capture.text t).toList <+: (lossy (Piped.written a.host pid t)).toList
    ∧ (Decoder.EndsWhole (Piped.written a.host pid t) →
      (a.capture.text t = lossy (Piped.written a.host pid t) ↔ octetsOf (a.unread t) = [])) := by
  obtain ⟨given, holds, written⟩ := h.accounted.held t
  rw [Watched.written, h.pid] at written
  have nothing (closed : (a.capture.buffer t).closed = true) : octetsOf (a.unread t) = [] :=
    (h.accounted.closed t closed).2
  rw [written]
  exact ⟨holds.prefix_text_lossy nothing, holds.text_eq_lossy_iff nothing⟩

end Watched

namespace Session

variable {ω : Type} [Piped ω] [PipeLaws ω] {s : Session}

/-- **How the end of a child is known** whose session did not become ready: it was told once.  Then
the child was read, if the waiting saw its end, or not, if it was asked once more. -/
theorem Unready.exists_told {n₀ n : Noted ω} {child : Child} {outcome : WaitOutcome}
    {status : String} {s₂ : Session} (h : s.Unready n₀ child outcome status n s₂)
    (empty : s.capture = .empty) (untold : n₀.told = []) (known : status ≠ "none") :
    ∃ (a : Watched (Noted ω)) (exit : Exit) (counts : Stream → ℕ),
      a.ToldOnce child.pid ∧ a.child.exit = some exit ∧ status = exit.label
      ∧ a.host = n ∧ a.capture = s₂.capture ∧ n.told = [counts]
      ∧ (outcome.exit? ≠ none → (∀ t, counts t ≤ drainLimit) → ∀ t, octetsOf (a.unread t) = [])
      ∧ (outcome.exit? = none → ∀ t, octetCount (a.unread t) = counts t) := by
  have keeps := Watched.keeps_toldOnce (ω := ω) child.pid
  have start {n₁ : Noted ω} (started : s.childStart n₀ = (.ok child, n₁)) :
      (⟨n₁, child, (s.having child).capture⟩ : Watched (Noted ω)).ToldOnce child.pid :=
    (show (s.having child).capture = .empty from empty) ▸ Child.toldOnce_of_start untold started
  cases h with
  | @exited exit n₁ _ _ started waited =>
    obtain ⟨b, told, asked, ⟨count, read⟩, host, -, capture⟩ :=
      keeps.exists_look rfl (start started) waited
    have ended : b.tryExit.2.child.exit = some exit := Watched.exit_of_tryExit_some asked
    have ended' : b.tryExit.2.child.exit ≠ none := by simp [ended]
    obtain ⟨counts, noted, small⟩ := told.tryExit.exists_counts ended'
    refine ⟨b.tryExit.2.pump.2, exit, counts, told.tryExit.pump,
      (Watched.exit_pump _).trans ended, rfl, host.symm, capture.symm, ?_, fun _ all t => ?_,
      nofun⟩
    · rw [host, Watched.told_pump]
      exact noted
    · exact Watched.octetsOf_unread_pump told.tryExit.accounted read
        (told.tryExit.accounted.silent ended') (fun t => (small t).trans (all t)) t
  | @late polls n₁ n₂ s₁ started waited =>
    obtain ⟨b, told, asked, -, host, has, capture⟩ :=
      keeps.exists_look rfl (start started) waited
    have unknown : b.tryExit.2.pump.2.child.exit = none :=
      (Watched.exit_pump _).trans (Watched.exit_of_tryExit_none asked)
    have told := told.tryExit.pump
    generalize b.tryExit.2.pump.2 = a at host has capture unknown told
    obtain ⟨w, c, capture'⟩ := a
    obtain rfl : n₂ = w := host
    obtain rfl : s₁.capture = capture' := capture
    obtain ⟨exit, answer, status⟩ := lastStatus_of_known has known
    rw [status]
    exact ⟨_, exit, _, told.tryExit, Watched.exit_of_tryExit_some answer, rfl, rfl, rfl,
      told.told_tryExit unknown answer, nofun, fun _ t => rfl⟩

/-- **What a start that fails reports of its child.**  If a session that was just built does not
become ready, and a status is told, then its child has ended.  The system told so once, and `counts`
is how much of each output was unread then.  Nothing is reported that the child did not write, and
of an output that does not end in the middle of a character:

* All that the child wrote is reported if the waiting saw its end and a drain may take what was
  unread of either output.
* If the time was over and the child's end was seen only when it was asked once more, all that it
  wrote is reported exactly if nothing was unread. -/
theorem startup_output {plan : SessionPlan} {w₀ w w' : ω} {status out err : String}
    (built : (plan.build w₀).1 = .ok s)
    (failed : s.spawn w = some (.error (.startup status out err), w'))
    (known : status ≠ "none") :
    ∃ (child : Child) (outcome : WaitOutcome) (n : Noted ω) (s₂ : Session) (exit : Exit)
      (counts : Stream → ℕ),
      s.Unready (.blank w) child outcome status n s₂ ∧ status = exit.label
      ∧ out = s₂.capture.text .stdout ∧ err = s₂.capture.text .stderr
      ∧ n.told = [counts] ∧ ∀ t, Piped.silent n child.pid t
        ∧ (s₂.capture.text t).toList <+: (lossy (Piped.written n child.pid t)).toList
        ∧ (Decoder.EndsWhole (Piped.written n child.pid t) →
          (outcome.exit? ≠ none → (∀ t, counts t ≤ drainLimit) →
            s₂.capture.text t = lossy (Piped.written n child.pid t))
          ∧ (outcome.exit? = none →
            (s₂.capture.text t = lossy (Piped.written n child.pid t) ↔ counts t = 0))) := by
  have mirrored := s.spawn_map Noted.echoes (.blank w)
  obtain ⟨⟨answer, n'⟩, spawned, same⟩ := Option.map_eq_some_iff.mp (mirrored.symm.trans failed)
  obtain rfl : answer = _ := congrArg Prod.fst same
  obtain ⟨child, outcome, n, s₂, unready, shown⟩ := of_spawn_startup spawned
  obtain ⟨a, exit, counts, told, ended, label, rfl, capture, noted, early, late⟩ :=
    unready.exists_told (SessionPlan.capture_of_build built) rfl known
  refine ⟨child, outcome, a.host, s₂, exit, counts, unready, label, shown.1, shown.2, noted,
    fun t => ?_⟩
  obtain ⟨begins, whole⟩ := told.toTracked.text_eq_lossy_iff t
  rw [← capture]
  refine ⟨told.toTracked.silent (told.accounted.silent (by simp [ended]) t), begins,
    fun ends => ⟨fun seen all => (whole ends).mpr (early seen all t), fun unseen => ?_⟩⟩
  rw [whole ends, ← late unseen t, octetCount_eq, List.length_eq_zero_iff]

/-- A session with a second to become ready. -/
def hurried : Session := { justBuilt with settings.startupTimeoutSecs := 1 }

/-- A process that writes to standard output when that has been read for the last time, and ends
before it is asked once more. -/
def lateWriter : Scripted :=
  .idle [[], [], [.write .stderr (encode "warming up")], [], [], [], [],
    [.write .stdout (encode "lost")], [], [.exit 768 []]]

/-- Its start fails with its status and without what it wrote last. -/
theorem startup_output_lateWriter :
    ∃ (w' : Scripted) (n : Noted Scripted) (s₂ : Session),
      hurried.spawn lateWriter = some (.error (.startup "3" "" "warming up"), w')
      ∧ hurried.Unready (.blank lateWriter) (.fresh 7) (.timedOut 2) "3" n s₂
      ∧ Piped.written n 7 .stdout = encode "lost" ∧ n.told.map (· .stdout) = [4]
      ∧ s₂.capture.text .stdout ≠ lossy (Piped.written n 7 .stdout)
      ∧ s₂.capture.text .stderr = lossy (Piped.written n 7 .stderr) := by
  have built : (hurried.toSessionPlan.build lateWriter).1 = .ok hurried := by decide +kernel
  have failed : (hurried.spawn lateWriter).map Prod.fst
      = some (.error (.startup "3" "" "warming up")) := by decide +kernel
  obtain ⟨⟨_, w'⟩, failed, rfl⟩ := Option.map_eq_some_iff.mp failed
  obtain ⟨child, outcome, n, s₂, exit, counts, unready, -, -, -, told, shown⟩ :=
    startup_output built failed (by decide)
  have start : (hurried.childStart (Noted.blank lateWriter)).1 = .ok (.fresh 7) := by
    decide +kernel
  have late : ((hurried.having (.fresh 7)).waitForOutput
      (hurried.childStart (Noted.blank lateWriter)).2 hurried.readiness).1
      = .ok (.timedOut 2) := by decide +kernel
  obtain ⟨rfl, rfl, same⟩ := unready.of_late (Prod.ext start rfl) (Prod.ext late rfl)
  have last : (Piped.written n 7 .stdout, Piped.written n 7 .stderr,
      n.told.map fun counts => (counts .stdout, counts .stderr))
      = (encode "lost", encode "warming up", [(4, 0)]) := by
    obtain rfl : n = _ := congrArg (·.2.1) same
    decide +kernel
  rw [told] at last
  simp only [List.map_cons, List.map_nil, Prod.mk.injEq, List.cons.injEq, and_true] at last
  obtain ⟨out, err, unread, unread'⟩ := last
  obtain ⟨-, -, complete⟩ := shown .stdout
  obtain ⟨-, -, complete'⟩ := shown .stderr
  refine ⟨w', n, s₂, failed, unready, out, ?_, ?_, ?_⟩
  · rw [told, List.map_singleton, unread]
  · refine mt ((complete (out ▸ by decide)).2 rfl).mp ?_
    rw [unread]
    decide
  · exact ((complete' (err ▸ by decide)).2 rfl).mpr unread'

end Session

end NestedSession
