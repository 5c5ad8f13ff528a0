import NestedSession.Child.Process
import NestedSession.Proofs.Capture.Draining

/-!
# Proofs/Child/Steps — what each step with a child comes to

A child is asked for its end, waited for, signalled and pumped.  What each of these comes to is said
here once, for every host.  A pump of one output is a drain (`Watched.drained`), after which the
output may be given up (`Watched.withoutStream`); a pump of both is one such pump or two.  So what
every drain and every giving up keeps, every pump keeps (`Watched.pump_keeps`).  Before all that a
child is started (`Child.of_start`), or it is not (`Child.of_start_error`).
-/

namespace NestedSession

@[simp] theorem Child.pid_shut (c : Child) (s : Stream) : (c.shut s).pid = c.pid := by
  cases s <;> rfl

@[simp] theorem Child.exit_shut (c : Child) (s : Stream) : (c.shut s).exit = c.exit := by
  cases s <;> rfl

@[simp] theorem Child.isOpen_shut (c : Child) (s t : Stream) :
    (c.shut s).isOpen t = if t = s then false else c.isOpen t := by
  cases s <;> cases t <;> rfl

/-! ## Starting -/

namespace Child

variable {ω : Type} [Host ω] {w w' : ω} {pid : Pid} {call : Invocation} {program : String}
  {fault : SessionFault}

/-- **What it keeps that reads return at once** of one output, it keeps of all. -/
theorem unblockAll_keeps {P : ω → Prop} (unblock : ∀ w s, P w → P (Host.unblock w pid s).2)
    (h : P w) (streams : List Stream) : P (unblockAll w pid streams).2 := by
  induction streams generalizing w with
  | nil => exact h
  | cons s rest ih =>
    have kept := unblock w s h
    rw [unblockAll]
    generalize Host.unblock w pid s = answer at kept ⊢
    rcases answer with ⟨_ | _, w'⟩
    · exact kept
    · exact ih kept

/-- If it fails, it fails for one of them, and that is the last request. -/
theorem of_unblockAll_error {streams : List Stream}
    (failed : unblockAll w pid streams = (.error fault, w')) :
    ∃ w₁ s errno, Host.unblock w₁ pid s = (.error errno, w')
      ∧ fault = .nonBlocking s errno := by
  induction streams generalizing w with
  | nil => cases failed
  | cons s rest ih =>
    rw [unblockAll] at failed
    rcases asked : Host.unblock w pid s with ⟨errno | _, w₁⟩
    all_goals rw [asked] at failed
    · cases failed
      exact ⟨w, s, errno, asked, rfl⟩
    · exact ih failed

/-- **A child that starts** is fresh: its process was begun, and reads of it return at once. -/
theorem of_start {child : Child} (started : start w call program = (.ok child, w')) :
    ∃ w₁, Host.spawn w call = (.ok child.pid, w₁) ∧ child = fresh child.pid
      ∧ unblockAll w₁ child.pid Stream.all = (.ok (), w') := by
  rw [start] at started
  rcases spawned : Host.spawn w call with ⟨_ | pid, w₁⟩
  · rw [spawned] at started
    cases started
  rcases unblocked : unblockAll w₁ pid Stream.all with ⟨_ | _, w₂⟩
  all_goals
    simp only [spawned, unblocked] at started
    cases started
  exact ⟨w₁, rfl, rfl, unblocked⟩

/-- **A child that does not start** was not begun, or reads of it would have to wait, and it was
killed and waited for. -/
theorem of_start_error (failed : start w call program = (.error fault, w')) :
    (∃ why, Host.spawn w call = (.error why, w') ∧ fault = .spawn program why)
    ∨ ∃ pid w₁ w₂, Host.spawn w call = (.ok pid, w₁)
      ∧ unblockAll w₁ pid Stream.all = (.error fault, w₂)
      ∧ w' = (Host.wait (Host.kill w₂ pid .kill).2 pid).2 := by
  rw [start] at failed
  rcases spawned : Host.spawn w call with ⟨why | pid, w₁⟩
  · rw [spawned] at failed
    cases failed
    exact .inl ⟨why, rfl, rfl⟩
  rcases unblocked : unblockAll w₁ pid Stream.all with ⟨_ | _, w₂⟩
  all_goals
    simp only [spawned, unblocked] at failed
    cases failed
  exact .inr ⟨pid, w₁, w₂, rfl, unblocked, rfl⟩

end Child

namespace Watched

variable {ω : Type} [Host ω] {a : Watched ω}

/-! ## Asking, waiting, signalling -/

/-- A child after a request that only the host has part in. -/
def withHost (a : Watched ω) (w : ω) : Watched ω := { a with host := w }

/-- **Asked for its end**: it is known, or the host is asked and gives no answer, the answer that
the child is alive, or its end. -/
theorem tryExit_cases (a : Watched ω) :
    (∃ exit, a.child.exit = some exit ∧ a.tryExit = (.ok (some exit), a))
    ∨ a.child.exit = none ∧
      ((∃ fault, (Host.tryWait a.host a.child.pid).1 = .error fault ∧ a.tryExit
          = (.error (.system fault), a.withHost (Host.tryWait a.host a.child.pid).2))
      ∨ (Host.tryWait a.host a.child.pid).1 = .ok none ∧ a.tryExit
          = (.ok none, a.withHost (Host.tryWait a.host a.child.pid).2)
      ∨ ∃ status, (Host.tryWait a.host a.child.pid).1 = .ok (some status) ∧ a.tryExit
          = (.ok (some (Exit.ofWaitStatus status)),
              (a.withHost (Host.tryWait a.host a.child.pid).2).ended status)) := by
  cases known : a.child.exit with
  | some exit => exact .inl ⟨exit, rfl, by simp only [tryExit, known]⟩
  | none =>
    refine .inr ⟨rfl, ?_⟩
    simp only [tryExit, known]
    rcases Host.tryWait a.host a.child.pid with ⟨fault | _ | status, w⟩
    · exact .inl ⟨fault, rfl, rfl⟩
    · exact .inr (.inl ⟨rfl, rfl⟩)
    · exact .inr (.inr ⟨status, rfl, rfl⟩)

/-- **Waited for**: its end is known, or the host is asked. -/
theorem wait_cases (a : Watched ω) :
    (∃ exit, a.child.exit = some exit ∧ a.wait = (.ok exit, a))
    ∨ a.child.exit = none ∧
      ((∃ fault, (Host.wait a.host a.child.pid).1 = .error fault ∧ a.wait
          = (.error (.system fault), a.withHost (Host.wait a.host a.child.pid).2))
      ∨ ∃ status, (Host.wait a.host a.child.pid).1 = .ok status ∧ a.wait
          = (.ok (Exit.ofWaitStatus status),
              (a.withHost (Host.wait a.host a.child.pid).2).ended status)) := by
  cases known : a.child.exit with
  | some exit => exact .inl ⟨exit, rfl, by simp only [wait, known]⟩
  | none =>
    refine .inr ⟨rfl, ?_⟩
    simp only [wait, known]
    rcases Host.wait a.host a.child.pid with ⟨fault | status, w⟩
    · exact .inl ⟨fault, rfl, rfl⟩
    · exact .inr ⟨status, rfl, rfl⟩

/-- **Signalled**: it is asked for its end, and sent the signal only if it is alive. -/
theorem signal_cases (a : Watched ω) (sent : Signal) :
    (a.signal sent).2 = a.tryExit.2
    ∨ a.tryExit.1 = .ok none ∧ (a.signal sent).2
        = a.tryExit.2.withHost (Host.kill a.tryExit.2.host a.tryExit.2.child.pid sent).2 := by
  rw [signal]
  rcases a.tryExit with ⟨_ | _ | _, b⟩
  · exact .inl rfl
  · simp only
    split
    · refine .inr ⟨trivial, ?_⟩
      rcases Host.kill b.host b.child.pid sent with ⟨_ | _, w⟩
      · simp only
        split <;> rfl
      · rfl
    · exact .inl rfl
  · exact .inl rfl

/-- A child that is said to be alive has no known end. -/
theorem exit_of_tryExit_none {a : Watched ω} (alive : a.tryExit.1 = .ok none) :
    a.tryExit.2.child.exit = none := by
  rcases a.tryExit_cases with ⟨exit, -, eq⟩ | ⟨unknown, ⟨_, -, eq⟩ | ⟨-, eq⟩ | ⟨_, -, eq⟩⟩
  all_goals rw [eq] at alive ⊢
  · nomatch alive
  · nomatch alive
  · exact unknown
  · nomatch alive

/-- The end that is told is known from then on. -/
theorem exit_of_tryExit_some {a : Watched ω} {exit : Exit} (told : a.tryExit.1 = .ok (some exit)) :
    a.tryExit.2.child.exit = some exit := by
  rcases a.tryExit_cases with ⟨exit, known, eq⟩ | ⟨-, ⟨_, -, eq⟩ | ⟨-, eq⟩ | ⟨_, -, eq⟩⟩
  all_goals rw [eq] at told ⊢
  · exact known.trans (Except.ok.inj told)
  · nomatch told
  · nomatch told
  · exact Except.ok.inj told

/-- Neither asking, waiting nor signalling makes it another child. -/
theorem pid_tryExit (a : Watched ω) : a.tryExit.2.child.pid = a.child.pid := by
  rcases a.tryExit_cases with ⟨_, -, eq⟩ | ⟨-, ⟨_, -, eq⟩ | ⟨-, eq⟩ | ⟨_, -, eq⟩⟩
  all_goals exact congrArg (·.2.child.pid) eq

theorem pid_wait (a : Watched ω) : a.wait.2.child.pid = a.child.pid := by
  rcases a.wait_cases with ⟨_, -, eq⟩ | ⟨-, ⟨_, -, eq⟩ | ⟨_, -, eq⟩⟩
  all_goals exact congrArg (·.2.child.pid) eq

theorem pid_signal (a : Watched ω) (sent : Signal) : (a.signal sent).2.child.pid = a.child.pid := by
  rcases a.signal_cases sent with eq | ⟨-, eq⟩ <;> rw [eq]
  · exact a.pid_tryExit
  · exact a.pid_tryExit

/-! ## Pumping -/

/-- What is unread of an output. -/
def unread (a : Watched ω) (s : Stream) : List Piece := Host.unread a.host a.child.pid s

/-- A child one of whose outputs was drained. -/
def drained (a : Watched ω) (s : Stream) : Watched ω :=
  { a with
    host := Host.leave a.host a.child.pid s (a.capture.drain s (a.unread s)).unread
    capture := (a.capture.drain s (a.unread s)).capture }

/-- A child one of whose outputs is given up. -/
def withoutStream (a : Watched ω) (s : Stream) : Watched ω := { a with child := a.child.shut s }

/-- **What a pump of one output comes to**: nothing, if it was given up; else a drain, which may
fail, and after which the output is given up if it gave nothing but the end. -/
theorem pumpStream_cases (a : Watched ω) (s : Stream) :
    a.child.isOpen s = false ∧ a.pumpStream s = (.ok 0, a)
    ∨ (∃ fault, (a.capture.drain s (a.unread s)).result = .error fault
        ∧ a.pumpStream s = (.error (.system fault), a.drained s))
    ∨ (∃ status n, (a.capture.drain s (a.unread s)).result = .ok status
        ∧ a.pumpStream s = (.ok n, a.drained s))
    ∨ (a.capture.drain s (a.unread s)).result = .ok .closed
        ∧ a.pumpStream s = (.ok 0, (a.drained s).withoutStream s) := by
  cases isOpen : a.child.isOpen s with
  | false => exact .inl ⟨rfl, by simp [pumpStream, isOpen]⟩
  | true =>
    right
    rcases result : (a.capture.drain s (a.unread s)).result with fault | count | _ | _
    all_goals
      have result' := result
      rw [unread] at result'
      simp only [pumpStream, isOpen, if_true, result']
    · exact .inl ⟨fault, rfl, rfl⟩
    · exact .inr (.inl ⟨_, count, rfl, rfl⟩)
    · exact .inr (.inl ⟨_, 0, rfl, rfl⟩)
    · exact .inr (.inr ⟨trivial, rfl⟩)

/-- A pump of one output that fails is a drain in which a read failed. -/
theorem pumpStream_error {s : Stream} {fault : SessionFault}
    (failed : (a.pumpStream s).1 = .error fault) :
    (a.pumpStream s).2 = a.drained s
      ∧ faultsRead (a.unread s) (a.capture.drain s (a.unread s)).unread ≠ [] := by
  rcases a.pumpStream_cases s with ⟨-, eq⟩ | ⟨_, result, eq⟩ | ⟨_, _, -, eq⟩ | ⟨-, eq⟩
  all_goals rw [eq] at failed ⊢
  · nomatch failed
  · refine ⟨rfl, fun unfailing => ?_⟩
    obtain ⟨taken, -, drains⟩ := Buffer.drain_takes (a.capture.buffer s) 0 (a.unread s)
    obtain ⟨status, read⟩ := drains.ok unfailing
    exact nomatch result.symm.trans read
  · nomatch failed
  · nomatch failed

/-- What every drain keeps, and every giving up, a pump keeps. -/
theorem pumpStream_keeps {P : Watched ω → Prop} (drained : ∀ b s, P b → P (b.drained s))
    (withoutStream : ∀ b s, P b → P (b.withoutStream s)) (h : P a) (s : Stream) :
    P (a.pumpStream s).2 := by
  rcases a.pumpStream_cases s with ⟨-, eq⟩ | ⟨_, -, eq⟩ | ⟨_, _, -, eq⟩ | ⟨-, eq⟩ <;> rw [eq]
  · exact h
  · exact drained a s h
  · exact drained a s h
  · exact withoutStream _ s (drained a s h)

/-- **A pump** is one of standard output, and of standard error if that did not fail. -/
theorem pump_cases (a : Watched ω) :
    (∃ fault, (a.pumpStream .stdout).1 = .error fault
      ∧ a.pump = (.error fault, (a.pumpStream .stdout).2))
    ∨ (∃ n, (a.pumpStream .stdout).1 = .ok n) ∧
      ((∃ fault, ((a.pumpStream .stdout).2.pumpStream .stderr).1 = .error fault
        ∧ a.pump = (.error fault, ((a.pumpStream .stdout).2.pumpStream .stderr).2))
      ∨ ∃ n m, ((a.pumpStream .stdout).2.pumpStream .stderr).1 = .ok m
        ∧ a.pump = (.ok n, ((a.pumpStream .stdout).2.pumpStream .stderr).2)) := by
  rw [pump]
  rcases a.pumpStream .stdout with ⟨fault | n, b⟩
  · exact .inl ⟨fault, rfl, rfl⟩
  · refine .inr ⟨⟨n, rfl⟩, ?_⟩
    simp only
    rcases b.pumpStream .stderr with ⟨fault | m, c⟩
    · exact .inl ⟨fault, rfl, rfl⟩
    · exact .inr ⟨n + m, m, rfl, rfl⟩

/-- What every pump of one output keeps, a pump of both keeps. -/
theorem pump_keeps {P : Watched ω → Prop} (pumpStream : ∀ b s, P b → P (b.pumpStream s).2)
    (h : P a) : P a.pump.2 := by
  rcases a.pump_cases with ⟨_, -, eq⟩ | ⟨-, ⟨_, -, eq⟩ | ⟨_, _, -, eq⟩⟩ <;> rw [eq]
  · exact pumpStream a _ h
  · exact pumpStream _ _ (pumpStream a _ h)
  · exact pumpStream _ _ (pumpStream a _ h)

/-- A pump forgets neither the child's number nor its end. -/
theorem pid_pumpStream (a : Watched ω) (s : Stream) :
    (a.pumpStream s).2.child.pid = a.child.pid :=
  pumpStream_keeps (P := fun b => b.child.pid = a.child.pid) (fun _ _ h => h)
    (fun b s h => (b.child.pid_shut s).trans h) rfl s

theorem exit_pump (a : Watched ω) : a.pump.2.child.exit = a.child.exit :=
  pump_keeps (P := fun b => b.child.exit = a.child.exit)
    (fun _ s h => pumpStream_keeps (fun _ _ h => h)
      (fun b s h => (b.child.exit_shut s).trans h) h s) rfl

theorem pid_pump (a : Watched ω) : a.pump.2.child.pid = a.child.pid :=
  pump_keeps (P := fun b => b.child.pid = a.child.pid)
    (fun b s h => (b.pid_pumpStream s).trans h) rfl

/-! ## Waiting for the end -/

/-- **What pumping, asking and pausing keep**, the loop that waits for the child's end keeps. -/
theorem awaitEnd_keeps {P : Watched ω → Prop} (pump : ∀ b, P b → P b.pump.2)
    (tryExit : ∀ b, P b → P b.tryExit.2)
    (pause : ∀ b span, P b → P (b.withHost (Host.pause b.host span))) (deadline : Moment)
    (left : Span) (h : P a) : P (a.awaitEnd deadline left).2 := by
  have looking {b c : Watched ω} {answer : Except SessionFault (Option Exit)} (h : P b)
      (asked : b.pump.2.tryExit = (answer, c)) : P c := by
    have kept := tryExit _ (pump b h)
    rwa [asked] at kept
  fun_induction awaitEnd a deadline left with
  | case1 _ _ _ _ _ asked | case3 _ _ _ _ asked => exact looking h asked
  | case2 _ _ _ _ _ asked => exact pump _ (looking h asked)
  | case4 _ _ _ _ asked _ _ _ ih => exact ih (pause _ _ (looking h asked))

/-- An end that the loop gives is known. -/
theorem exit_of_awaitEnd_some {deadline : Moment} {left : Span} {exit : Exit}
    (seen : (a.awaitEnd deadline left).1 = some exit) :
    (a.awaitEnd deadline left).2.child.exit = some exit := by
  fun_induction awaitEnd a deadline left with
  | case1 | case3 => nomatch seen
  | case2 _ _ _ _ c asked =>
    obtain rfl := Option.some.inj seen
    have known := exit_of_tryExit_some (congrArg Prod.fst asked)
    rw [asked] at known
    exact (exit_pump c).trans known
  | case4 _ _ _ _ _ _ _ _ ih => exact ih seen

/-- **Ended**: the clock cannot show the deadline, and that is all; or the end is seen before it; or
the child is ordered to end and waited for, which gives its end or a fault. -/
theorem terminate_cases (a : Watched ω) (grace : Span) :
    (Host.now (a.signal .term).2.host).after? grace = none ∧ a.terminate grace = none
    ∨ ∃ deadline, (Host.now (a.signal .term).2.host).after? grace = some deadline ∧
      ((∃ exit, ((a.signal .term).2.awaitEnd deadline grace).1 = some exit ∧ a.terminate grace
          = some ((some exit, false), ((a.signal .term).2.awaitEnd deadline grace).2))
      ∨ ((a.signal .term).2.awaitEnd deadline grace).1 = none ∧
        ((∃ exit, (((a.signal .term).2.awaitEnd deadline grace).2.kill.2.wait).1 = .ok exit
          ∧ a.terminate grace = some ((some exit, true),
              (((a.signal .term).2.awaitEnd deadline grace).2.kill.2.wait).2.pump.2))
        ∨ ∃ fault, (((a.signal .term).2.awaitEnd deadline grace).2.kill.2.wait).1 = .error fault
          ∧ a.terminate grace = some ((none, true),
              (((a.signal .term).2.awaitEnd deadline grace).2.kill.2.wait).2))) := by
  rw [terminate]
  cases (Host.now (a.signal .term).2.host).after? grace with
  | none => exact .inl ⟨rfl, rfl⟩
  | some deadline =>
    refine .inr ⟨deadline, rfl, ?_⟩
    simp only
    rcases (a.signal .term).2.awaitEnd deadline grace with ⟨_ | exit, b⟩
    · refine .inr ⟨rfl, ?_⟩
      simp only
      rcases b.kill.2.wait with ⟨fault | exit, c⟩
      · exact .inr ⟨fault, rfl, rfl⟩
      · exact .inl ⟨exit, rfl, rfl⟩
    · exact .inl ⟨exit, rfl, rfl⟩

/-- **What signals, pumps, the loop and the waiting keep**, the end of a child keeps. -/
theorem terminate_keeps {P : Watched ω → Prop} (signal : ∀ b sent, P b → P (b.signal sent).2)
    (pump : ∀ b, P b → P b.pump.2) (wait : ∀ b, P b → P b.wait.2)
    (awaitEnd : ∀ b deadline left, P b → P (b.awaitEnd deadline left).2) (h : P a) {grace : Span}
    {answer : Option Exit × Bool} {b : Watched ω}
    (ended : a.terminate grace = some (answer, b)) : P b := by
  have awaited (deadline : Moment) := awaitEnd _ deadline grace (signal a .term h)
  rcases a.terminate_cases grace with ⟨-, eq⟩
    | ⟨deadline, -, ⟨_, -, eq⟩ | ⟨-, ⟨_, -, eq⟩ | ⟨_, -, eq⟩⟩⟩
  all_goals
    rw [eq] at ended
    cases ended
  · exact awaited deadline
  · exact pump _ (wait _ (signal _ .kill (awaited deadline)))
  · exact wait _ (signal _ .kill (awaited deadline))

end Watched

end NestedSession
