/-!
# Settings/Fault — why settings cannot be used
-/

namespace NestedSession

/-- Why settings cannot be used. -/
inductive SettingsFault where
  /-- There is no file to read them from. -/
  | missing (path : String)
  /-- The file does not say what it should, and why. -/
  | unreadable (reason : String)
  /-- A setting makes no sense. -/
  | invalid (field reason : String)
  deriving DecidableEq, Repr, Inhabited

/-- The text of a fault. -/
def SettingsFault.text : SettingsFault → String
  | .missing path => s!"config file not found: {path}"
  | .unreadable reason => s!"failed to parse config: {reason}"
  | .invalid field reason => s!"invalid config value for '{field}': {reason}"

end NestedSession
