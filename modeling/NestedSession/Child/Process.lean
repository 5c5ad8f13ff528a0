import NestedSession.Child.Exit
import NestedSession.Session.Fault
import NestedSession.System.Host

/-!
# Child/Process — a child and what it writes

A child is watched: it is asked whether it has ended, what it has written is taken over, and it is
sent signals.  Once its end is known (`Child.exit`), the system is asked about it no more.
-/

namespace NestedSession

/-- A child that was started. -/
structure Child where
  pid : Pid
  /-- Whether standard output may still give something. -/
  stdoutOpen : Bool
  /-- Whether standard error may still give something. -/
  stderrOpen : Bool
  /-- How it ended, once that is known. -/
  exit : Option Exit
  deriving DecidableEq, Repr, Inhabited

namespace Child

/-- A child that was just started. -/
def fresh (pid : Pid) : Child := ⟨pid, true, true, none⟩

/-- Whether an output may still give something. -/
def isOpen (c : Child) : Stream → Bool
  | .stdout => c.stdoutOpen
  | .stderr => c.stderrOpen

/-- Give up an output whose end was seen. -/
def shut (c : Child) : Stream → Child
  | .stdout => { c with stdoutOpen := false }
  | .stderr => { c with stderrOpen := false }

variable {ω : Type} [Host ω]

/-- Let reads of some outputs return at once. -/
def unblockAll (w : ω) (pid : Pid) : List Stream → Except SessionFault Unit × ω
  | [] => (.ok (), w)
  | s :: rest =>
    match Host.unblock w pid s with
    | (.error errno, w) => (.error (.nonBlocking s errno), w)
    | (.ok _, w) => unblockAll w pid rest

/-- **Start a child.**  One whose outputs cannot be read without waiting is ended at once. -/
def start (w : ω) (call : Invocation) (program : String) : Except SessionFault Child × ω :=
  match Host.spawn w call with
  | (.error fault, w) => (.error (.spawn program fault), w)
  | (.ok pid, w) =>
    match unblockAll w pid Stream.all with
    | (.ok _, w) => (.ok (fresh pid), w)
    | (.error fault, w) =>
      let (_, w) := Host.kill w pid .kill
      let (_, w) := Host.wait w pid
      (.error fault, w)

end Child

/-- A child in its world, and what was read of it. -/
structure Watched (ω : Type) where
  host : ω
  child : Child
  capture : Capture

namespace Watched

variable {ω : Type} [Host ω]

/-- Remember how the child ended. -/
def ended (a : Watched ω) (status : Int32) : Watched ω :=
  { a with child := { a.child with exit := some (Exit.ofWaitStatus status) } }

/-- **Ask whether the child has ended.**  An end that is known is not asked for again. -/
def tryExit (a : Watched ω) : Except SessionFault (Option Exit) × Watched ω :=
  match a.child.exit with
  | some exit => (.ok (some exit), a)
  | none =>
    match Host.tryWait a.host a.child.pid with
    | (.error fault, w) => (.error (.system fault), { a with host := w })
    | (.ok none, w) => (.ok none, { a with host := w })
    | (.ok (some status), w) =>
      (.ok (some (Exit.ofWaitStatus status)), ended { a with host := w } status)

/-- Take over what one output has. -/
def pumpStream (a : Watched ω) (s : Stream) : Except SessionFault Nat × Watched ω :=
  if a.child.isOpen s then
    let d := a.capture.drain s (Host.unread a.host a.child.pid s)
    let a : Watched ω :=
      { a with host := Host.leave a.host a.child.pid s d.unread, capture := d.capture }
    match d.result with
    | .error fault => (.error (.system fault), a)
    | .ok (.data count) => (.ok count, a)
    | .ok .empty => (.ok 0, a)
    | .ok .closed => (.ok 0, { a with child := a.child.shut s })
  else (.ok 0, a)

/-- **Take over what both outputs have**, and say how many octets that were.  What was read before
a fault is kept. -/
def pump (a : Watched ω) : Except SessionFault Nat × Watched ω :=
  match a.pumpStream .stdout with
  | (.error fault, a) => (.error fault, a)
  | (.ok n, a) =>
    match a.pumpStream .stderr with
    | (.error fault, a) => (.error fault, a)
    | (.ok m, a) => (.ok (n + m), a)

/-- **Send a signal**, unless the child has ended. -/
def signal (a : Watched ω) (sent : Signal) : Except SessionFault Unit × Watched ω :=
  match a.tryExit with
  | (.error fault, a) => (.error fault, a)
  | (.ok (some _), a) => (.ok (), a)
  | (.ok none, a) =>
    if Pid.reachable a.child.pid then
      match Host.kill a.host a.child.pid sent with
      | (.ok _, w) => (.ok (), { a with host := w })
      | (.error errno, w) =>
        if errno = .noProcess then (.ok (), { a with host := w })
        else (.error (.signal sent a.child.pid errno), { a with host := w })
    else (.error (.signal sent a.child.pid .invalid), a)

/-- Order the child to end. -/
def kill (a : Watched ω) : Except SessionFault Unit × Watched ω := a.signal .kill

/-- **Wait until the child has ended.** -/
def wait (a : Watched ω) : Except SessionFault Exit × Watched ω :=
  match a.child.exit with
  | some exit => (.ok exit, a)
  | none =>
    match Host.wait a.host a.child.pid with
    | (.error fault, w) => (.error (.system fault), { a with host := w })
    | (.ok status, w) => (.ok (Exit.ofWaitStatus status), ended { a with host := w } status)

/-! ## The end of a child -/

/-- How long to sleep between two questions whether a child has ended. -/
def reapInterval : Span := 50000000

/-- **Watch a child until it has ended**, a deadline is over, or nothing can be asked.  `left` is
what the grace leaves after the pauses made so far. -/
def awaitEnd (a : Watched ω) (deadline : Moment) (left : Span) : Option Exit × Watched ω :=
  let a := a.pump.2
  match a.tryExit with
  | (.error _, a) => (none, a)
  | (.ok (some exit), a) => (some exit, a.pump.2)
  | (.ok none, a) =>
    let span := min left (deadline.nanoseconds - (Host.now a.host).nanoseconds)
    if span = 0 then (none, a)
    else
      let step := min reapInterval span
      awaitEnd { a with host := Host.pause a.host step } deadline (left - step)
  termination_by left
  decreasing_by
    have pos : 0 < min left (deadline.nanoseconds - (Host.now a.host).nanoseconds) :=
      Nat.pos_of_ne_zero ‹_›
    have le := Nat.min_le_left left (deadline.nanoseconds - (Host.now a.host).nanoseconds)
    exact Nat.sub_lt (Nat.lt_of_lt_of_le pos le) (Nat.lt_min.mpr ⟨by decide, pos⟩)

/-- **End a child.**  It is asked to end and given some time; then it is ordered to, and that is
the second part of the answer.  There is no answer if the clock cannot show the deadline. -/
def terminate (a : Watched ω) (grace : Span) : Option ((Option Exit × Bool) × Watched ω) :=
  let a := (a.signal .term).2
  match (Host.now a.host).after? grace with
  | none => none
  | some deadline =>
    match a.awaitEnd deadline grace with
    | (some exit, a) => some ((some exit, false), a)
    | (none, a) =>
      match a.kill.2.wait with
      | (.ok exit, a) => some ((some exit, true), a.pump.2)
      | (.error _, a) => some ((none, true), a)

end Watched

end NestedSession
