import NestedSession.Proofs.Child.Handling
import NestedSession.Proofs.Session.Deadline
import NestedSession.Proofs.Session.Independence
import NestedSession.Proofs.System.Ticking

/-!
# Proofs/Child/Forcing — whether a child was killed, and whether it is said to have been

A child is asked to end, watched while its grace lasts, and at last ordered to end; before each of
the two signals it is asked for its end once more.  So that question may tell the end of a child
that was alive when its grace was over: then no order is sent, and yet the child is said to have
been forced (`Watched.terminate_of_late`).  In all other ways to end, who is said to have been
forced was ordered to end, and nobody else was (`Watched.Ending`).
-/

namespace NestedSession

open scoped List

/-- The moment a span ahead. -/
theorem Moment.nanoseconds_of_after? {m ahead : Moment} {span : Span}
    (shown : m.after? span = some ahead) : ahead.nanoseconds = m.nanoseconds + span := by
  rw [after?, Option.ite_none_right_eq_some] at shown
  exact congrArg nanoseconds (Option.some.inj shown.2).symm

/-! ## Signals that were delivered -/

namespace Call

/-- Whether a call did not fail. -/
def succeeded : Call → Bool
  | asked _ answer => answer.isOk
  | waited _ answer => answer.isOk
  | signalled _ _ answer => answer.isOk

/-- **The signal that a call delivered**, if it delivered one. -/
def delivered? : Call → Option Signal
  | signalled _ sent (.ok _) => some sent
  | _ => none

end Call

/-- **The signals that calls delivered**, in their order; the calls stand the last first. -/
def delivered (calls : List Call) : List Signal := calls.reverse.filterMap Call.delivered?

theorem delivered_cons (call : Call) (calls : List Call) :
    delivered (call :: calls) = delivered calls ++ call.delivered?.toList := by
  rw [delivered, List.reverse_cons, List.filterMap_append]
  cases h : call.delivered? <;> simp [delivered, h]

namespace Called

variable {ω : Type} [Host ω]

/-- No call failed. -/
def AllSucceeded (n : Called ω) : Prop := ∀ call ∈ n.calls, call.succeeded = true

omit [Host ω] in
/-- No call failed before, either. -/
theorem AllSucceeded.of_cons {n n' : Called ω} {call : Call} (h : n'.AllSucceeded)
    (entered : n'.calls = call :: n.calls) : call.succeeded = true ∧ n.AllSucceeded := by
  rw [AllSucceeded, entered] at h
  exact List.forall_mem_cons.mp h

/-- **A call that failed stays written down.** -/
theorem keeps_failure : Host.Keeps fun n : Called ω => ¬ n.AllSucceeded where
  makeDirs _ _ failed := failed
  replace _ _ _ failed := failed
  removeTree _ _ failed := failed
  leave _ _ _ _ failed := failed
  tryWait n pid failed h := failed (h.of_cons (n.calls_tryWait pid)).2
  wait n pid failed h := failed (h.of_cons (n.calls_wait pid)).2
  kill n pid sent failed h := failed (h.of_cons (n.calls_kill pid sent)).2
  pause _ _ failed := failed

end Called

namespace Watched

variable {ω : Type} [Host ω] {a b : Watched (Called ω)}

/-! ## Which signals are delivered -/

/-- A question delivers nothing. -/
theorem delivered_tryExit (a : Watched (Called ω)) :
    delivered a.tryExit.2.host.calls = delivered a.host.calls := by
  have asked : delivered (Host.tryWait a.host a.child.pid).2.calls = delivered a.host.calls := by
    rw [Called.calls_tryWait, delivered_cons]
    exact List.append_nil _
  rcases a.tryExit_cases with ⟨_, -, eq⟩ | ⟨-, ⟨_, -, eq⟩ | ⟨-, eq⟩ | ⟨_, -, eq⟩⟩ <;> rw [eq]
  all_goals exact asked

theorem delivered_wait (a : Watched (Called ω)) :
    delivered a.wait.2.host.calls = delivered a.host.calls := by
  have waited : delivered (Host.wait a.host a.child.pid).2.calls = delivered a.host.calls := by
    rw [Called.calls_wait, delivered_cons]
    exact List.append_nil _
  rcases a.wait_cases with ⟨_, -, eq⟩ | ⟨-, ⟨_, -, eq⟩ | ⟨_, -, eq⟩⟩ <;> rw [eq]
  all_goals exact waited

theorem delivered_pump (a : Watched (Called ω)) :
    delivered a.pump.2.host.calls = delivered a.host.calls :=
  congrArg delivered a.calls_pump

/-- Nor does the loop that waits for the child's end. -/
theorem delivered_awaitEnd (a : Watched (Called ω)) (deadline : Moment) (left : Span) :
    delivered (a.awaitEnd deadline left).2.host.calls = delivered a.host.calls :=
  awaitEnd_keeps
    (P := fun b : Watched (Called ω) => delivered b.host.calls = delivered a.host.calls)
    (fun b same => b.delivered_pump.trans same) (fun b same => b.delivered_tryExit.trans same)
    (fun _ _ same => same) deadline left rfl

/-- A signal is delivered, or it is not. -/
theorem delivered_signal (a : Watched (Called ω)) (sent : Signal) :
    ∃ new, new <+ [sent]
      ∧ delivered (a.signal sent).2.host.calls = delivered a.host.calls ++ new := by
  rcases a.signal_cases sent with eq | ⟨-, eq⟩ <;> rw [eq]
  · exact ⟨[], List.nil_sublist _, by rw [delivered_tryExit, List.append_nil]⟩
  · rw [withHost, Called.calls_kill, delivered_cons, delivered_tryExit]
    refine ⟨_, ?_, rfl⟩
    rcases (Host.kill a.tryExit.2.host a.tryExit.2.child.pid sent).1 with _ | _
    · exact List.nil_sublist _
    · exact List.Sublist.refl _

/-- **At most a request to end is delivered and then an order**, whatever fails. -/
theorem delivered_terminate {grace : Span} {answer : Option Exit × Bool}
    (ended : a.terminate grace = some (answer, b)) :
    ∃ new, new <+ [.term, .kill]
      ∧ delivered b.host.calls = delivered a.host.calls ++ new := by
  obtain ⟨first, asked, told⟩ := a.delivered_signal .term
  have awaited (deadline : Moment) :=
    ((a.signal .term).2.delivered_awaitEnd deadline grace).trans told
  rcases a.terminate_cases grace with ⟨-, eq⟩
    | ⟨deadline, -, ⟨_, -, eq⟩ | ⟨-, ⟨_, -, eq⟩ | ⟨_, -, eq⟩⟩⟩
  all_goals
    rw [eq] at ended
    cases ended
  · exact ⟨first, asked.trans (List.sublist_append_left _ _), awaited deadline⟩
  all_goals
    obtain ⟨second, ordered, killed⟩ :=
      ((a.signal .term).2.awaitEnd deadline grace).2.delivered_signal .kill
    refine ⟨first ++ second, asked.append ordered, ?_⟩
    rw [awaited deadline, List.append_assoc] at killed
  · rw [delivered_pump, delivered_wait]
    exact killed
  · rw [delivered_wait]
    exact killed

/-! ## Calls that succeed -/

/-- A question that is not answered failed. -/
theorem not_allSucceeded_of_tryExit {fault : SessionFault} (failed : a.tryExit.1 = .error fault) :
    ¬ a.tryExit.2.host.AllSucceeded := fun succeeded => by
  have entered := a.host.calls_tryWait a.child.pid
  rcases a.tryExit_cases with ⟨_, -, eq⟩ | ⟨-, ⟨_, told, eq⟩ | ⟨-, eq⟩ | ⟨_, -, eq⟩⟩
  all_goals rw [eq] at failed succeeded
  · nomatch failed
  · rw [told] at entered
    nomatch (succeeded.of_cons entered).1
  · nomatch failed
  · nomatch failed

/-- **Asked for its end**, it is alive or its end is told. -/
theorem tryExit_of_succeeded (unknown : a.child.exit = none)
    (succeeded : a.tryExit.2.host.AllSucceeded) :
    a.tryExit.1 = .ok none ∧ a.tryExit.2.child = a.child
        ∧ a.tryExit.2.host.calls = .asked a.child.pid (.ok none) :: a.host.calls
    ∨ ∃ status, a.tryExit.1 = .ok (some (Exit.ofWaitStatus status))
        ∧ a.tryExit.2.host.calls = .asked a.child.pid (.ok (some status)) :: a.host.calls := by
  have entered := a.host.calls_tryWait a.child.pid
  rcases a.tryExit_cases with ⟨_, known, -⟩ | ⟨-, ⟨_, -, eq⟩ | ⟨told, eq⟩ | ⟨status, told, eq⟩⟩
  · nomatch known.symm.trans unknown
  · exact absurd succeeded (not_allSucceeded_of_tryExit (congrArg Prod.fst eq))
  all_goals
    rw [told] at entered
    rw [eq]
  · exact .inl ⟨rfl, rfl, entered⟩
  · exact .inr ⟨status, rfl, entered⟩

/-- **Waited for**, its end is told. -/
theorem wait_of_succeeded (unknown : a.child.exit = none)
    (succeeded : a.wait.2.host.AllSucceeded) :
    ∃ status, a.wait.1 = .ok (Exit.ofWaitStatus status)
      ∧ a.wait.2.host.calls = .waited a.child.pid (.ok status) :: a.host.calls := by
  have entered := a.host.calls_wait a.child.pid
  rcases a.wait_cases with ⟨_, known, -⟩ | ⟨-, ⟨_, told, eq⟩ | ⟨status, told, eq⟩⟩
  · nomatch known.symm.trans unknown
  all_goals
    rw [told] at entered
    rw [eq] at succeeded ⊢
  · exact nomatch (succeeded.of_cons entered).1
  · exact ⟨status, rfl, entered⟩

/-- A child that is alive is sent its signal. -/
theorem signal_of_alive {sent : Signal} (reachable : Pid.reachable a.child.pid = true)
    (alive : a.tryExit.1 = .ok none) : (a.signal sent).2
      = a.tryExit.2.withHost (Host.kill a.tryExit.2.host a.tryExit.2.child.pid sent).2 := by
  rw [← a.pid_tryExit] at reachable
  rw [signal]
  generalize a.tryExit = asked at alive reachable ⊢
  obtain ⟨answer, b⟩ := asked
  obtain rfl : answer = .ok none := alive
  simp only [if_pos reachable]
  rcases Host.kill b.host b.child.pid sent with ⟨_ | _, w⟩
  · simp only
    split <;> rfl
  · rfl

/-- **Signalled**, its end is told, or it is alive and the signal is delivered. -/
theorem signal_of_succeeded {sent : Signal} (reachable : Pid.reachable a.child.pid = true)
    (unknown : a.child.exit = none) (succeeded : (a.signal sent).2.host.AllSucceeded) :
    (∃ status, (a.signal sent).2.child.exit = some (Exit.ofWaitStatus status)
        ∧ (a.signal sent).2.host.calls = .asked a.child.pid (.ok (some status)) :: a.host.calls)
    ∨ (a.signal sent).2.child.exit = none ∧ (a.signal sent).2.host.calls
        = .signalled a.child.pid sent (.ok ())
          :: .asked a.child.pid (.ok none) :: a.host.calls := by
  have asked : a.tryExit.2.host.AllSucceeded := by
    rcases a.signal_cases sent with eq | ⟨-, eq⟩ <;> rw [eq] at succeeded
    · exact succeeded
    · exact (succeeded.of_cons (Called.calls_kill _ _ _)).2
  rcases tryExit_of_succeeded unknown asked with ⟨alive, same, calls⟩ | ⟨status, told, calls⟩
  · rw [signal_of_alive reachable alive] at succeeded ⊢
    have entered := a.tryExit.2.host.calls_kill a.tryExit.2.child.pid sent
    rw [calls, same] at entered
    refine .inr ⟨exit_of_tryExit_none alive, ?_⟩
    rw [withHost, same, entered]
    rw [withHost, same] at succeeded
    cases answer : (Host.kill a.tryExit.2.host a.child.pid sent).1 with
    | ok => rfl
    | error =>
      rw [answer] at entered
      rw [Called.AllSucceeded, entered] at succeeded
      cases (List.forall_mem_cons.mp succeeded).1
  · have eq : (a.signal sent).2 = a.tryExit.2 := by
      rcases a.signal_cases sent with eq | ⟨alive, -⟩
      · exact eq
      · cases told.symm.trans alive
    rw [eq]
    exact .inl ⟨status, exit_of_tryExit_some told, calls⟩

/-- **Ordered to end and waited for**, its end is told by the question before the order, or the
order is delivered and the wait tells it. -/
theorem wait_kill_of_succeeded (reachable : Pid.reachable a.child.pid = true)
    (unknown : a.child.exit = none) (succeeded : a.kill.2.wait.2.host.AllSucceeded) :
    ∃ status, a.kill.2.wait.1 = .ok (Exit.ofWaitStatus status)
      ∧ (a.kill.2.wait.2.host.calls = .asked a.child.pid (.ok (some status)) :: a.host.calls
        ∨ a.kill.2.wait.2.host.calls = .waited a.child.pid (.ok status)
          :: .signalled a.child.pid .kill (.ok ())
          :: .asked a.child.pid (.ok none) :: a.host.calls) := by
  have ordered : a.kill.2.host.AllSucceeded :=
    not_imp_not.mp (fun failed => Called.keeps_failure.waited failed) succeeded
  rcases signal_of_succeeded reachable unknown ordered with ⟨status, known, calls⟩ | ⟨alive, calls⟩
  · rw [kill, (LeftAlone.of_known known).wait]
    exact ⟨status, rfl, .inl calls⟩
  · obtain ⟨status, answer, last⟩ := wait_of_succeeded alive succeeded
    rw [pid_signal, calls] at last
    exact ⟨status, answer, .inr last⟩

/-! ## The grace -/

/-- The end of a child that the loop gives up was unknown. -/
theorem unknown_of_awaitEnd {deadline : Moment} {left : Span}
    (gaveUp : (a.awaitEnd deadline left).1 = none) : a.child.exit = none := by
  cases known : a.child.exit with
  | none => rfl
  | some exit =>
    have asked : a.pump.2.tryExit = (.ok (some exit), a.pump.2) := by
      rw [tryExit, exit_pump, known]
    rw [awaitEnd, asked] at gaveUp
    cases gaveUp

/-- An end that is unknown after a signal was unknown before it. -/
theorem unknown_of_signal {sent : Signal} (unknown : (a.signal sent).2.child.exit = none) :
    a.child.exit = none := by
  cases known : a.child.exit with
  | none => rfl
  | some exit =>
    rw [(LeftAlone.of_known known).signal] at unknown
    exact known.symm.trans unknown

/-- **The loop gives a child up when its grace is over**, not before, and then its end is unknown.
What is left of the grace goes down with the pauses, and the clock goes on by as much or more. -/
theorem awaitEnd_overdue (steady : Host.Steady (Called ω)) {deadline : Moment} {left : Span}
    (due : deadline.nanoseconds ≤ (Host.now a.host).nanoseconds + left)
    (gaveUp : (a.awaitEnd deadline left).1 = none)
    (succeeded : (a.awaitEnd deadline left).2.host.AllSucceeded) :
    (a.awaitEnd deadline left).2.child.exit = none
      ∧ deadline.nanoseconds ≤ (Host.now (a.awaitEnd deadline left).2.host).nanoseconds := by
  have looked {a c : Watched (Called ω)} {answer : Except SessionFault (Option Exit)}
      (asked : a.pump.2.tryExit = (answer, c)) :
      (Host.now a.host).nanoseconds ≤ (Host.now c.host).nanoseconds := by
    have onward := steady.onward (Host.now a.host).nanoseconds
    have later := onward.tryExit (onward.pump Nat.le.refl)
    rwa [asked] at later
  fun_induction awaitEnd a deadline left with
  | case1 a left b fault c asked =>
    have failed := not_allSucceeded_of_tryExit (congrArg Prod.fst asked)
    rw [asked] at failed
    exact absurd succeeded failed
  | case2 => cases gaveUp
  | case3 a left b c asked span spent =>
    have alive := exit_of_tryExit_none (congrArg Prod.fst asked)
    rw [asked] at alive
    refine ⟨alive, ?_⟩
    have later := looked asked
    have spent := Nat.min_eq_zero_iff.mp spent
    change deadline.nanoseconds ≤ (Host.now c.host).nanoseconds
    omega
  | case4 a left b c asked span going step ih =>
    refine ih ?_ gaveUp succeeded
    have later := looked asked
    have paused := steady.pause c.host step
    change deadline.nanoseconds ≤ (Host.now (Host.pause c.host step)).nanoseconds + (left - step)
    omega

/-- Nothing is done to the world between two dealings but to let time pass. -/
def Pausing (w w' : ω) : Prop := ∃ span, w' = Host.pause w span

/-- **The grace is over**, and the child may still be alive: a moment after it was asked to end and
before it is ordered to, when its end was not told yet. -/
structure Overdue (a : Watched (Called ω)) (grace : Span) (x : Watched (Called ω)) : Prop where
  course : Course Pausing a x
  unknown : x.child.exit = none
  told : delivered x.host.calls = delivered a.host.calls ++ [.term]
  expired : (Host.now (a.signal .term).2.host).nanoseconds + grace ≤ (Host.now x.host).nanoseconds

/-- **A child that the loop gave up is overdue.** -/
theorem overdue_of_awaitEnd (steady : Host.Steady (Called ω))
    (reachable : Pid.reachable a.child.pid = true) {grace : Span} {deadline : Moment}
    (shown : (Host.now (a.signal .term).2.host).after? grace = some deadline)
    (gaveUp : ((a.signal .term).2.awaitEnd deadline grace).1 = none)
    (succeeded : ((a.signal .term).2.awaitEnd deadline grace).2.host.AllSucceeded) :
    a.Overdue grace ((a.signal .term).2.awaitEnd deadline grace).2 := by
  have ahead := Moment.nanoseconds_of_after? shown
  obtain ⟨unknown, expired⟩ := awaitEnd_overdue steady ahead.le gaveUp succeeded
  refine ⟨?_, unknown, ?_, ahead ▸ expired⟩
  · exact awaitEnd_keeps (P := Course Pausing a) (fun b run => run.tail (.pumped b))
      (fun b run => run.tail (.asked b)) (fun b span run => run.tail (.drifted b ⟨span, rfl⟩))
      deadline grace (.single (.signalled a .term))
  have alive := unknown_of_awaitEnd gaveUp
  have first : (a.signal .term).2.host.AllSucceeded :=
    not_imp_not.mp (fun failed => Called.keeps_failure.awaitEnd failed deadline grace) succeeded
  rw [delivered_awaitEnd]
  rcases signal_of_succeeded reachable (unknown_of_signal alive) first with
    ⟨_, known, -⟩ | ⟨-, calls⟩
  · nomatch known.symm.trans alive
  · rw [calls, delivered_cons, delivered_cons, List.append_assoc]
    rfl

/-- **How the end of a child came about** whose calls all succeed: its end, whether it is said to
have been forced, and the calls. -/
inductive Ending (a : Watched (Called ω)) (grace : Span) (b : Watched (Called ω)) :
    Exit → Bool → Prop
  /-- Its end was known or told before it was asked to end. -/
  | early {exit : Exit} (quiet : delivered b.host.calls = delivered a.host.calls) :
    Ending a grace b exit false
  /-- Its end was told while its grace lasted. -/
  | obeyed {exit : Exit} (told : delivered b.host.calls = delivered a.host.calls ++ [.term]) :
    Ending a grace b exit false
  /-- Its end was told by the question before the order, which was not sent. -/
  | late {x : Watched (Called ω)} {status : Int32} (overdue : a.Overdue grace x)
    (behind : Course Pausing x b)
    (calls : b.host.calls = .asked a.child.pid (.ok (some status)) :: x.host.calls) :
    Ending a grace b (.ofWaitStatus status) true
  /-- It was ordered to end, and waited for. -/
  | killed {x : Watched (Called ω)} {status : Int32} (overdue : a.Overdue grace x)
    (behind : Course Pausing x b)
    (calls : b.host.calls = .waited a.child.pid (.ok status)
      :: .signalled a.child.pid .kill (.ok ())
      :: .asked a.child.pid (.ok none) :: x.host.calls) :
    Ending a grace b (.ofWaitStatus status) true

/-- **A child that is ended**, all calls about it succeeding, ends in one of these ways. -/
theorem ending_of_terminate (steady : Host.Steady (Called ω))
    (reachable : Pid.reachable a.child.pid = true) {grace : Span} {exit : Option Exit}
    {forced : Bool} (ended : a.terminate grace = some ((exit, forced), b))
    (succeeded : b.host.AllSucceeded) :
    ∃ known, exit = some known ∧ a.Ending grace b known forced := by
  rcases a.terminate_cases grace with ⟨-, eq⟩
    | ⟨deadline, shown, ⟨exit, seen, eq⟩ | ⟨gaveUp, way⟩⟩
  · nomatch eq.symm.trans ended
  · cases eq.symm.trans ended
    obtain ⟨new, small, told⟩ := a.delivered_signal .term
    rw [← delivered_awaitEnd _ deadline grace] at told
    rcases List.sublist_singleton.mp small with rfl | rfl
    · exact ⟨exit, rfl, .early (told.trans (List.append_nil _))⟩
    · exact ⟨exit, rfl, .obeyed told⟩
  have number : ((a.signal .term).2.awaitEnd deadline grace).2.child.pid = a.child.pid :=
    (pid_awaitEnd _ _ _).trans (a.pid_signal .term)
  generalize gone : ((a.signal .term).2.awaitEnd deadline grace).2 = x at way number
  have waited : x.kill.2.wait.2.host.AllSucceeded := by
    rcases way with ⟨_, -, eq⟩ | ⟨_, -, eq⟩ <;> cases eq.symm.trans ended
    · rwa [Called.AllSucceeded, calls_pump] at succeeded
    · exact succeeded
  have left : x.host.AllSucceeded := not_imp_not.mp
    (fun failed => Called.keeps_failure.waited (Called.keeps_failure.signal failed .kill)) waited
  have overdue := overdue_of_awaitEnd steady reachable shown gaveUp (gone ▸ left)
  rw [gone] at overdue
  obtain ⟨status, answer, calls⟩ :=
    wait_kill_of_succeeded (number ▸ reachable) overdue.unknown waited
  rcases way with ⟨exit, told, eq⟩ | ⟨_, told, -⟩
  · cases eq.symm.trans ended
    obtain rfl := Except.ok.inj (told.symm.trans answer)
    have behind : Course Pausing x x.kill.2.wait.2.pump.2 :=
      (Relation.ReflTransGen.single (.killed x)).tail (.waited _) |>.tail (.pumped _)
    rw [number, ← calls_pump] at calls
    exact ⟨_, rfl, calls.elim (.late overdue behind) (.killed overdue behind)⟩
  · nomatch told.symm.trans answer

/-- **What was delivered, whichever way the end came about**, if nothing was before. -/
theorem Ending.delivers {grace : Span} {exit : Exit} {forced : Bool}
    (way : a.Ending grace b exit forced) (blank : a.host.calls = []) :
    (.kill ∈ delivered b.host.calls → delivered b.host.calls = [.term, .kill] ∧ forced = true)
    ∧ (forced = true → ∃ x, a.Overdue grace x ∧ Course Pausing x b
      ∧ (.kill ∉ delivered b.host.calls
        ↔ ∃ status, b.host.calls = .asked a.child.pid (.ok (some status)) :: x.host.calls)) := by
  cases way with
  | early quiet =>
    have told : delivered b.host.calls = [] := quiet.trans (congrArg delivered blank)
    simp [told]
  | obeyed told =>
    have told : delivered b.host.calls = [.term] := by
      rw [told, blank]
      rfl
    have unsent : .kill ∉ delivered b.host.calls := by
      rw [told]
      decide
    exact ⟨fun ordered => absurd ordered unsent, nofun⟩
  | @late x status overdue behind calls =>
    have told : delivered b.host.calls = [.term] := by
      rw [calls, delivered_cons, overdue.told, blank]
      rfl
    have unsent : .kill ∉ delivered b.host.calls := by
      rw [told]
      decide
    exact ⟨fun ordered => absurd ordered unsent,
      fun _ => ⟨x, overdue, behind, iff_of_true unsent ⟨status, calls⟩⟩⟩
  | @killed x status overdue behind calls =>
    have told : delivered b.host.calls = [.term, .kill] := by
      rw [calls, delivered_cons, delivered_cons, delivered_cons, overdue.told, blank]
      rfl
    refine ⟨fun _ => ⟨told, rfl⟩, fun _ => ⟨x, overdue, behind, iff_of_false ?_ ?_⟩⟩
    · simp [told]
    · simp [calls]

/-- **A child whose end falls between two questions**, the last of its grace and the one before the
order, is said to have been forced, and was not killed. -/
theorem terminate_of_late {x : Watched (Called ω)} {grace : Span} {deadline : Moment} {exit : Exit}
    (shown : (Host.now (a.signal .term).2.host).after? grace = some deadline)
    (gaveUp : (a.signal .term).2.awaitEnd deadline grace = (none, x))
    (told : x.tryExit.1 = .ok (some exit)) :
    ∃ b, a.terminate grace = some ((some exit, true), b)
      ∧ delivered b.host.calls = delivered (a.signal .term).2.host.calls := by
  have known := exit_of_tryExit_some told
  have unsent : x.kill.2 = x.tryExit.2 := by
    rcases x.signal_cases .kill with eq | ⟨alive, -⟩
    · exact eq
    · nomatch told.symm.trans alive
  have waited : x.kill.2.wait = (.ok exit, x.tryExit.2) := by
    rw [unsent, (LeftAlone.of_known known).wait]
  refine ⟨x.tryExit.2.pump.2, ?_, ?_⟩
  · rw [terminate, shown]
    simp only [gaveUp, waited]
  · rw [delivered_pump, delivered_tryExit, ← delivered_awaitEnd (a.signal .term).2 deadline grace,
      gaveUp]

end Watched

/-- **Who is killed, and who is said to have been forced.**  Of a child that is ended on a host with
a steady clock, where calls about it are written down from here on:

* To write them down changes nothing.
* It is not ended exactly if the clock cannot show the end of its grace.
* However it is ended, a request to end is delivered at most, and then an order; each once.
* If no call fails, its end is known.  An order is delivered only after a request, and only to a
  child that is said to have been forced.  Who is said to have been forced was overdue; and the
  order was delivered then, unless the next question told the end.
* In that case the child is said to have been forced all the same: whenever its end falls between
  the last question of its grace and the next.
* The report of its session says the same, and is clean exactly if the child is not said to have
  been forced, and ended with code 0 or by the request. -/
theorem Watched.terminate_forced {ω : Type} [Host ω] (steady : Host.Steady ω)
    {a : Watched (Called ω)} (blank : a.host.calls = [])
    (reachable : Pid.reachable a.child.pid = true) (grace : Span) :
    (a.map Called.host).terminate grace
      = (a.terminate grace).map (Prod.map id (Watched.map Called.host))
    ∧ (a.terminate grace = none
      ↔ Moment.limit ≤ (Host.now (a.signal .term).2.host).nanoseconds + grace)
    ∧ (∀ exit forced b, a.terminate grace = some ((exit, forced), b) →
      delivered b.host.calls <+ [.term, .kill]
      ∧ (b.host.AllSucceeded → exit.isSome = true
        ∧ (.kill ∈ delivered b.host.calls →
          delivered b.host.calls = [.term, .kill] ∧ forced = true)
        ∧ (forced = true → ∃ x, a.Overdue grace x ∧ Course Pausing x b
          ∧ (.kill ∉ delivered b.host.calls
            ↔ ∃ status, b.host.calls
              = .asked a.child.pid (.ok (some status)) :: x.host.calls))))
    ∧ (∀ deadline x exit, (Host.now (a.signal .term).2.host).after? grace = some deadline →
      (a.signal .term).2.awaitEnd deadline grace = (none, x) → x.tryExit.1 = .ok (some exit) →
      ∃ b, a.terminate grace = some ((some exit, true), b)
        ∧ .kill ∉ delivered b.host.calls)
    ∧ ∀ s : Session, s.child = some a.child → s.capture = a.capture →
      s.settings.shutdownTimeout = grace → ∀ report n, s.teardown a.host = some (report, n) →
      (∃ b, a.terminate grace = some ((report.exit, report.forced), b)
        ∧ n.calls = b.host.calls)
      ∧ ∀ known, report.exit = some known → (report.clean = true
        ↔ report.forced = false ∧ (known = .exited 0 ∨ known = .signaled 15)) := by
  refine ⟨terminate_map Called.echoes.toMirrors a grace, ?_, fun exit forced b ended => ⟨?_, ?_⟩,
    fun deadline x exit shown gaveUp told => ?_, ?_⟩
  · rw [← Option.not_isSome_iff_eq_none, isSome_terminate_iff, Nat.not_lt]
  · obtain ⟨new, small, eq⟩ := delivered_terminate ended
    rw [eq, blank]
    exact small
  · intro succeeded
    have steady := steady.comap Called.echoes.toMirrors
    obtain ⟨known, rfl, way⟩ := ending_of_terminate steady reachable ended succeeded
    exact ⟨rfl, way.delivers blank⟩
  · obtain ⟨b, ended, same⟩ := terminate_of_late shown gaveUp told
    refine ⟨b, ended, fun ordered => ?_⟩
    obtain ⟨new, small, eq⟩ := a.delivered_signal .term
    rw [same, eq, blank] at ordered
    nomatch small.subset ordered
  · rintro s has captured rfl report n ended
    obtain ⟨b, ended, calls, clean⟩ := Session.exists_terminate_of_teardown has ended
    rw [captured] at ended
    refine ⟨⟨b, ended, calls⟩, fun known told => ?_⟩
    rw [clean, Session.isCleanEnd_iff, told]
    simp

/-- A child that was just started.  Asked to end, it is alive to every question of one second, and
has ended with code 0 at the next. -/
def Watched.tardy : Watched (Called Scripted) :=
  ⟨.blank (.idle (List.replicate 85 [] ++ [[.exit 0 []]])), .fresh 7, .empty⟩

/-- It is said to have been forced and its session not to be clean; but only the request to end was
delivered. -/
theorem Watched.terminate_forced_tardy :
    ∃ b x, tardy.terminate (Span.ofSeconds 1) = some ((some (.exited 0), true), b)
      ∧ b.host.AllSucceeded ∧ delivered b.host.calls = [.term]
      ∧ tardy.Overdue (Span.ofSeconds 1) x
      ∧ ∃ report n, (Session.underway.withGrace 1).teardown tardy.host = some (report, n)
        ∧ report.exit = some (.exited 0) ∧ report.forced = true ∧ report.clean = false := by
  obtain ⟨-, -, handled, -, reported⟩ :=
    terminate_forced Scripted.steady (a := tardy) rfl (by decide) (Span.ofSeconds 1)
  have run : (tardy.terminate (Span.ofSeconds 1)).map (fun r =>
      (r.1, delivered r.2.host.calls, decide (∀ call ∈ r.2.host.calls, call.succeeded = true)))
        = some ((some (.exited 0), true), [.term], true) := by decide +kernel
  obtain ⟨⟨answer, b⟩, ended, same⟩ := Option.map_eq_some_iff.mp run
  obtain ⟨rfl, told, succeeded⟩ : answer = (some (.exited 0), true)
      ∧ delivered b.host.calls = [.term] ∧ b.host.AllSucceeded := by
    simp only [Prod.mk.injEq, decide_eq_true_eq] at same
    exact same
  obtain ⟨-, going⟩ := handled _ _ b ended
  obtain ⟨-, -, forced⟩ := going succeeded
  obtain ⟨x, overdue, -⟩ := forced rfl
  have waits : (Session.underway.withGrace 1).settings.shutdownTimeout = Span.ofSeconds 1 := rfl
  have torn : (Session.underway.withGrace 1).teardown tardy.host
      = some (((Session.underway.withGrace 1).after b).conclude b.host
        (some (.exited 0)) true) := by
    rw [Session.teardown_of_child rfl, waits]
    exact congrArg (Option.map _) ended
  obtain ⟨-, clean⟩ := reported _ rfl rfl waits _ _ torn
  refine ⟨b, x, ended, succeeded, told, overdue, _, _, torn, rfl, rfl, ?_⟩
  exact Bool.eq_false_iff.mpr fun counts => nomatch ((clean _ rfl).mp counts).1

end NestedSession
