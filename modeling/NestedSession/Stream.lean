/-!
# Stream — the two outputs of a child, and how its log lines are graded
-/

namespace NestedSession

/-- An output of a child. -/
inductive Stream where
  | stdout
  | stderr
  deriving DecidableEq, Repr, Inhabited

/-- Both outputs, in the order they are read. -/
def Stream.all : List Stream := [.stdout, .stderr]

/-- The name of an output. -/
def Stream.name : Stream → String
  | .stdout => "stdout"
  | .stderr => "stderr"

/-- The grade of a log line. -/
inductive Severity where
  | critical
  | warning
  deriving DecidableEq, Repr, Inhabited

/-- The name of a grade. -/
def Severity.name : Severity → String
  | .critical => "critical"
  | .warning => "warning"

/-- **The marker of a graded line**: the end of the log domain and the two stars after it. -/
def Severity.marker : Severity → String
  | .critical => "-CRITICAL **"
  | .warning => "-WARNING **"

end NestedSession
