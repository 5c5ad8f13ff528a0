import NestedSession.System.Signal

/-!
# Child/Exit — how a process ended

A process ends by itself with a code, or by a signal.  The system reports either as one word
(`Exit.ofWaitStatus`).
-/

namespace NestedSession

/-- How a process ended. -/
inductive Exit where
  /-- By itself, with a code. -/
  | exited (code : Int32)
  /-- By a signal. -/
  | signaled (signal : Int32)
  deriving DecidableEq, Repr, Inhabited

namespace Exit

/-- **The end that a wait status reports.**  The low seven bits are 0 for an exit, whose code is in
the next octet, or the signal; 127 reports neither and counts as code -1. -/
def ofWaitStatus (status : Int32) : Exit :=
  let word := status.toUInt32.toNat
  match word % 128 with
  | 0 => exited (Int32.ofNat (word / 256 % 256))
  | 127 => exited (-1)
  | signal => signaled (Int32.ofNat signal)

/-- **A clean end**: code 0, or the signal that asks a session to end. -/
def isClean : Exit → Bool
  | exited code => code == 0
  | signaled signal => signal == Int32.ofNat Signal.term.number

/-- An end in words: `0`, `signal 15`. -/
def label : Exit → String
  | exited code => toString code.toInt
  | signaled signal => s!"signal {signal.toInt}"

/-- The label of an end that may be unknown. -/
def labelOf : Option Exit → String
  | some exit => exit.label
  | none => "none"

end Exit

end NestedSession
