import NestedSession.Capture.Basic
import NestedSession.Child.Exit
import NestedSession.System.Clock

/-!
# Waiting/Request — what to wait for, and how the waiting ends
-/

namespace NestedSession

/-- What to wait for. -/
structure WaitRequest where
  /-- A marker on standard output. -/
  stdout : Option String := none
  /-- A marker on standard error. -/
  stderr : Option String := none
  /-- How long, if not as long as the session's settings say. -/
  timeout : Option Span := none
  /-- Whether a marker may already be there. -/
  tolerant : Bool := false
  deriving DecidableEq, Repr, Inhabited

namespace WaitRequest

/-- The markers to wait for, standard output first. -/
def markers (r : WaitRequest) : List (Stream × String) :=
  (r.stdout.map fun m => (Stream.stdout, m)).toList
    ++ (r.stderr.map fun m => (Stream.stderr, m)).toList

/-- **Whether every marker shows.** -/
def isMet (r : WaitRequest) (c : Capture) : Bool :=
  r.markers.all fun (stream, marker) => c.contains stream marker

/-- The first marker that may not be there before the waiting, but is. -/
def stale? (r : WaitRequest) (c : Capture) : Option (Stream × String) :=
  if r.tolerant then none
  else r.markers.find? fun (stream, marker) => c.contains stream marker

/-- **The marker to blame** if the waiting ends without success: the first that does not show, or
the first of all. -/
def blamed (r : WaitRequest) (c : Capture) : Stream × String :=
  match r.markers.find? fun (stream, marker) => !c.contains stream marker with
  | some found => found
  | none => r.markers.headD (.stderr, "")

end WaitRequest

/-- How a waiting ended.  The number of looks at the output is a 32-bit word. -/
inductive WaitOutcome where
  /-- Every marker shows. -/
  | satisfied (polls : UInt32)
  /-- The child ended first. -/
  | exited (exit : Exit)
  /-- The time is over. -/
  | timedOut (polls : UInt32)
  deriving DecidableEq, Repr, Inhabited

namespace WaitOutcome

/-- Whether every marker shows. -/
def isSatisfied : WaitOutcome → Bool
  | satisfied _ => true
  | _ => false

/-- An outcome in words. -/
def text : WaitOutcome → String
  | satisfied polls => s!"satisfied after {polls} poll(s)"
  | exited exit => s!"process exited (exit status: {exit.label})"
  | timedOut polls => s!"timed out after {polls} poll(s)"

end WaitOutcome

end NestedSession
