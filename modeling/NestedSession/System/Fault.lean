import NestedSession.System.Errno
import NestedSession.Text.Quoted
import NestedSession.Text.Utf8

/-!
# System/Fault — what goes wrong between a program and its system

A fault is a number from the kernel, one of a few kinds that carry no number, a text, or a fault
about one path.  Readers ask it two questions only: was the call merely interrupted, and is there
merely nothing to read yet (`isInterrupted`, `isWouldBlock`).
-/

namespace NestedSession

/-- The kinds of fault that arise without a number. -/
inductive FaultKind where
  | notFound
  | permissionDenied
  | brokenPipe
  | timedOut
  | unexpectedEnd
  | interrupted
  | wouldBlock
  deriving DecidableEq, Repr

/-- The standing text of a kind. -/
def FaultKind.text : FaultKind → String
  | .notFound => "entity not found"
  | .permissionDenied => "permission denied"
  | .brokenPipe => "broken pipe"
  | .timedOut => "timed out"
  | .unexpectedEnd => "unexpected end of file"
  | .interrupted => "operation interrupted"
  | .wouldBlock => "operation would block"

/-- A failed dealing with the system. -/
inductive Fault where
  /-- A system call failed. -/
  | os (errno : Errno)
  /-- A kind alone. -/
  | plain (kind : FaultKind)
  /-- The octets read are not a text. -/
  | notText
  /-- Anything else. -/
  | other (text : String)
  /-- A fault, and the path it is about. -/
  | atPath (fault : Fault) (path : Octets)
  deriving DecidableEq, Repr, Inhabited

namespace Fault

/-- The text of a fault. -/
def text : Fault → String
  | os e => s!"{e.text} (os error {e.number})"
  | plain kind => kind.text
  | notText => "stream did not contain valid UTF-8"
  | other t => t
  | atPath fault path => fault.text ++ " at path " ++ Text.quotedOctets path

/-- The call was cut short and may simply be made again. -/
def isInterrupted : Fault → Bool
  | os e => e == .interrupted
  | plain kind => kind == .interrupted
  | atPath fault _ => fault.isInterrupted
  | _ => false

/-- There is nothing to read yet. -/
def isWouldBlock : Fault → Bool
  | os e => e == .wouldBlock
  | plain kind => kind == .wouldBlock
  | atPath fault _ => fault.isWouldBlock
  | _ => false

/-- There is no file of that name. -/
def isNotFound : Fault → Bool
  | os e => e == .noEntry
  | plain kind => kind == .notFound
  | atPath fault _ => fault.isNotFound
  | _ => false

end Fault

end NestedSession
