import NestedSession.Environment.Backend
import NestedSession.Environment.Variables
import NestedSession.System.Path

/-!
# Environment/Layers — the variables of a child

A child gets the variables around the program, then what a nested session always needs, then the
word for its backend, and last what the caller says.  Each layer wins over the ones before it.
-/

namespace NestedSession

namespace Variables

/-- A variable by a name that is a text. -/
def named? (vars : Variables) (name : String) : Option Octets := vars.get? (Utf8.encode name)

/-- A variable that is set to something, by a name that is a text. -/
def namedNonEmpty? (vars : Variables) (name : String) : Option Octets :=
  vars.getNonEmpty? (Utf8.encode name)

/-- The runtime directory around the program. -/
def runtimeDir? (vars : Variables) : Option Octets := vars.namedNonEmpty? "XDG_RUNTIME_DIR"

/-- Whether the environment asks for log files. -/
def asksForLogs (vars : Variables) : Bool := (vars.namedNonEmpty? "SAVE_TEST_LOGS").isSome

/-- **The backend for a session in this environment**: the one it names, or a window of the
display around it, or none. -/
def backend (vars : Variables) : Backend :=
  match vars.namedNonEmpty? "WLR_BACKENDS" with
  | some token => .explicit (Utf8.lossy token)
  | none =>
    if (vars.namedNonEmpty? "WAYLAND_DISPLAY").isSome then .wayland
    else if (vars.namedNonEmpty? "DISPLAY").isSome then .x11
    else .headless

/-- Set a variable whose name and value are texts. -/
def insertText (name value : String) (vars : Variables) : Variables :=
  vars.insert (Utf8.encode name) (Utf8.encode value)

/-- **The variables of a child.** -/
def layered (ambient : Variables) (buildDir : Path) (backend : Backend) (overrides : Variables) :
    Variables :=
  let settings := ambient.insertText "GSETTINGS_BACKEND" "memory"
  let runtime :=
    if ambient.runtimeDir?.isSome then settings
    else settings.insert (Utf8.encode "XDG_RUNTIME_DIR") buildDir
  (runtime.insertText "WLR_BACKENDS" backend.token).insertAll overrides.entries

end Variables

end NestedSession
