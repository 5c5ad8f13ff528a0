import NestedSession.Capture.Basic
import NestedSession.System.Fault

/-!
# Capture/Drain — reading what is there, without waiting

What successive reads of an output will give is a list of pieces; behind the last one a read finds
nothing yet.  `drain` reads until it would have to wait, the output ends, a read fails, or it has
read so much that its caller should have the word again.  What it does not read stays in order.
-/

namespace NestedSession

/-- What one or more reads will give. -/
inductive Piece where
  /-- Octets; a read takes at most `chunkSize` of them. -/
  | octets (bs : Octets)
  /-- The end, which stays. -/
  | ended
  /-- A fault, once. -/
  | failed (fault : Fault)
  deriving DecidableEq, Repr, Inhabited

/-- The most octets of one read. -/
def chunkSize : Nat := 8192

/-- The number of octets after which a drain reads no more. -/
def drainLimit : Nat := 1048576

/-- How a drain went. -/
inductive ReadStatus where
  /-- It read so many octets. -/
  | data (count : Nat)
  /-- There was nothing to read. -/
  | empty
  /-- There was nothing but the end. -/
  | closed
  deriving DecidableEq, Repr, Inhabited

/-- A drained buffer, how it went, and what stays unread. -/
structure Drained where
  result : Except Fault ReadStatus
  buffer : Buffer
  unread : List Piece

/-- The status after so many octets, if nothing more is there. -/
def ReadStatus.after (total : Nat) : ReadStatus := if total = 0 then .empty else .data total

/-- The work that pieces still make. -/
def Piece.weight : Piece → Nat
  | octets bs => bs.length + 1
  | _ => 1

/-- The work that a list of pieces still makes. -/
def weights : List Piece → Nat
  | [] => 0
  | p :: rest => p.weight + weights rest

/-- **Read what is there.**  `total` octets were read before. -/
def Buffer.drain (b : Buffer) (total : Nat) (pieces : List Piece) : Drained :=
  if drainLimit ≤ total then ⟨.ok (.after total), b, pieces⟩
  else match pieces with
    | [] => ⟨.ok (.after total), b, []⟩
    | .ended :: rest => ⟨.ok (if total = 0 then .closed else .data total), b.close, .ended :: rest⟩
    | .failed fault :: rest =>
      if fault.isInterrupted then b.drain total rest
      else if fault.isWouldBlock then ⟨.ok (.after total), b, rest⟩
      else ⟨.error fault, b, rest⟩
    | .octets bs :: rest =>
      if bs.length ≤ chunkSize then (b.push bs).drain (total + bs.length) rest
      else (b.push (bs.take chunkSize)).drain (total + chunkSize)
        (.octets (bs.drop chunkSize) :: rest)
  termination_by weights pieces
  decreasing_by
    all_goals simp only [weights, Piece.weight, List.length_drop, chunkSize] at *
    all_goals omega

/-- The number of octets that pieces hold. -/
def octetCount : List Piece → Nat
  | [] => 0
  | .octets bs :: rest => bs.length + octetCount rest
  | _ :: rest => octetCount rest

/-- A drained capture, how it went, and what stays unread. -/
structure Capture.Drained where
  result : Except Fault ReadStatus
  capture : Capture
  unread : List Piece

/-- Read what is there of one output. -/
def Capture.drain (c : Capture) (s : Stream) (pieces : List Piece) : Capture.Drained :=
  let d := (c.buffer s).drain 0 pieces
  ⟨d.result, c.set s d.buffer, d.unread⟩

end NestedSession
