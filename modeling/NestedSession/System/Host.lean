import NestedSession.Capture.Drain
import NestedSession.Child.Launch
import NestedSession.System.Clock
import NestedSession.System.Signal

/-!
# System/Host — what a session asks of the system around it

A host is anything of a type `ω` that answers the requests below; each answer comes with the host
that is left.  Nothing is assumed about it, so what holds of sessions holds of every system, every
child and every fault.
-/

namespace NestedSession

/-- What a program asks of the files around it. -/
class Disk (ω : Type) where
  /-- The content of a file. -/
  content : ω → Path → Except Fault Octets
  /-- Make a directory and all that lead to it. -/
  makeDirs : ω → Path → Except Fault Unit × ω
  /-- Write a whole file. -/
  replace : ω → Path → Octets → Except Fault Unit × ω
  /-- Make a fresh directory below another, with a name that begins as said. -/
  makeWorkDir : ω → Path → String → Except Fault Path × ω
  /-- Remove a directory with all below it. -/
  removeTree : ω → Path → Except Fault Unit × ω

/-- What a session asks of the processes and the clock around it. -/
class Host (ω : Type) extends Disk ω where
  /-- Start a process. -/
  spawn : ω → Invocation → Except Fault Pid × ω
  /-- Let reads of an output return at once. -/
  unblock : ω → Pid → Stream → Except Errno Unit × ω
  /-- What reads of an output would give now. -/
  unread : ω → Pid → Stream → List Piece
  /-- Have read all but this. -/
  leave : ω → Pid → Stream → List Piece → ω
  /-- The wait status of a process, if it has ended; only the first answer counts. -/
  tryWait : ω → Pid → Except Fault (Option Int32) × ω
  /-- The wait status of a process, once it has ended. -/
  wait : ω → Pid → Except Fault Int32 × ω
  /-- Send a signal. -/
  kill : ω → Pid → Signal → Except Errno Unit × ω
  /-- The reading of the steady clock. -/
  now : ω → Moment
  /-- Let time pass. -/
  pause : ω → Span → ω

end NestedSession
