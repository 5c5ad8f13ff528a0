import NestedSession.Session.Verdict

/-!
# CommandLine/Fault — how a command fails, and the code the program ends with
-/

namespace NestedSession

/-- How a command fails. -/
inductive CommandFault where
  /-- The settings cannot be used. -/
  | settings (text : String)
  /-- The command itself cannot be done. -/
  | command (text : String)
  /-- The session did not get ready. -/
  | startup (text : String)
  /-- The session ran, but its end or its log is not as it should be. -/
  | session (text : String)
  /-- A report has no JSON form. -/
  | encoding (text : String)
  /-- The system refused something. -/
  | system (fault : Fault)
  /-- A fault of the settings, sessions or reports themselves. -/
  | shared (fault : SharedFault)
  deriving DecidableEq, Repr, Inhabited

/-- The code for a fault that callers share. -/
def SharedFault.exitCode : SharedFault → Nat
  | settings _ => 2
  | criticalLines _ _ | abnormalExit _ => 4
  | system _ => 10
  | session _ => 1

namespace CommandFault

/-- The text of a fault. -/
def text : CommandFault → String
  | settings t => "configuration error: " ++ t
  | command t => t
  | startup t => "startup failed: " ++ t
  | session t => "session failed: " ++ t
  | encoding t => "json output error: " ++ t
  | system fault => "io error: " ++ fault.text
  | shared fault => fault.text

/-- **The code the program ends with**: 1 for the command itself, 2 for settings, 3 for a session
that did not start, 4 for one that did not go well, 10 for the system. -/
def exitCode : CommandFault → Nat
  | settings _ => 2
  | startup _ => 3
  | session _ => 4
  | system _ => 10
  | shared fault => fault.exitCode
  | encoding _ | command _ => 1

end CommandFault

/-- **A scenario's fault for the program's caller.** -/
def ScenarioFault.toCommand (fault : ScenarioFault) : CommandFault :=
  match fault with
  | .setup (.startup ..) => .startup fault.text
  | .setup (.settings why) => .settings why.text
  | .setup (.system why) => .system why
  | .setup _ | .body .. => .command fault.text
  | .abnormalExit _ | .criticalLines .. => .session fault.text

end NestedSession
