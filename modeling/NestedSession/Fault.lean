import NestedSession.Settings.Fault
import NestedSession.System.Fault

/-!
# Fault — what goes wrong with settings, sessions and reports alike
-/

namespace NestedSession

/-- What goes wrong with settings, sessions or reports. -/
inductive SharedFault where
  | settings (fault : SettingsFault)
  | session (text : String)
  | criticalLines (count : Nat) (lines : List String)
  | abnormalExit (text : String)
  | system (fault : Fault)
  deriving DecidableEq, Repr, Inhabited

/-- The text about critical lines. -/
def criticalText (count : Nat) (lines : List String) : String :=
  s!"log contains {count} critical line(s): {Text.quotedList lines}"

/-- The text of a fault. -/
def SharedFault.text : SharedFault → String
  | settings fault => "config error: " ++ fault.text
  | session t => "session error: " ++ t
  | criticalLines count lines => criticalText count lines
  | abnormalExit t => "abnormal exit: " ++ t
  | system fault => "io error: " ++ fault.text

end NestedSession
