import NestedSession.CommandLine.Fault

/-!
# CommandLine/Outcome — how a command ends, and what it has shown
-/

namespace NestedSession

/-- How a payload is shown. -/
inductive OutputFormat where
  | text
  | json
  deriving DecidableEq, Repr, Inhabited

/-- How a command ends, and what it has shown. -/
structure CommandOutcome where
  result : Except CommandFault Unit
  shown : String
  deriving Inhabited

namespace CommandOutcome

/-- A command that fails and shows nothing. -/
def failure (fault : CommandFault) : CommandOutcome := ⟨.error fault, ""⟩

end CommandOutcome

end NestedSession
