import NestedSession.Session.Fault
import NestedSession.Waiting.Request

/-!
# Waiting/Poll — looking at the output until it shows every marker

Each look first asks whether the child has ended and then reads its output.  Time is measured by
the sleeps between the looks alone: the waiting is over when the sleeps add up to the timeout, and
the output is looked at once more after the last of them.
-/

namespace NestedSession

/-- What can be polled: something of type `σ` that writes into a capture. -/
structure Source (σ : Type) where
  /-- Ask whether it has ended. -/
  tryExit : σ → Except SessionFault (Option Exit) × σ
  /-- Read what it has written. -/
  pump : σ → Except SessionFault Nat × σ
  /-- What was read so far. -/
  capture : σ → Capture
  /-- Sleep. -/
  sleep : Span → σ → σ

/-- **The next sleep**: the interval, but at least a millisecond, and not beyond the timeout. -/
def nextStep (interval remaining : Span) : Span := min (max interval Span.millisecond) remaining

theorem nextStep_pos (interval : Span) {remaining : Span} (h : remaining ≠ 0) :
    0 < nextStep interval remaining :=
  Nat.lt_min.mpr ⟨Nat.lt_of_lt_of_le (by decide) (Nat.le_max_right interval _),
    Nat.pos_of_ne_zero h⟩

/-- Refuse to wait for what is already there. -/
def WaitRequest.check (r : WaitRequest) (c : Capture) : Except SessionFault Unit :=
  match r.stale? c with
  | some (stream, marker) => .error (.markerPresent stream marker)
  | none => .ok ()

/-- **Poll until every marker shows**, the child ends or the time is over. -/
def pollUntil {σ : Type} (src : Source σ) (request : WaitRequest) (interval : Span)
    (remaining : Span) (polls : UInt32) (s : σ) : Except SessionFault WaitOutcome × σ :=
  match src.tryExit s with
  | (.error e, s) => (.error e, s)
  | (.ok (some exit), s) =>
    match src.pump s with
    | (.error e, s) => (.error e, s)
    | (.ok _, s) => (.ok (.exited exit), s)
  | (.ok none, s) =>
    match src.pump s with
    | (.error e, s) => (.error e, s)
    | (.ok _, s) =>
      if request.isMet (src.capture s) then (.ok (.satisfied (polls + 1)), s)
      else if remaining = 0 then (.ok (.timedOut (polls + 1)), s)
      else
        let step := nextStep interval remaining
        pollUntil src request interval (remaining - step) (polls + 1) (src.sleep step s)
  termination_by remaining
  decreasing_by exact Nat.sub_lt (Nat.pos_of_ne_zero ‹_›) (nextStep_pos interval ‹_›)

end NestedSession
