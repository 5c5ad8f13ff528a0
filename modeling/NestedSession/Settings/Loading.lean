import NestedSession.Fault
import NestedSession.Settings.Overlay
import NestedSession.Settings.Reading
import NestedSession.Settings.Validity
import NestedSession.System.Path

/-!
# Settings/Loading — the settings in force

Settings are read from a file, changed by the environment, and checked.  What a file says must make
sense by itself, and what comes out must make sense as well.
-/

namespace NestedSession.Settings

/-- Settings that make sense, or why they do not. -/
def checked (s : Settings) : Except SharedFault Settings :=
  match s.check with
  | .ok _ => .ok s
  | .error why => .error (.settings why)

/-- **The settings of a file**, from what reading it gave. -/
def ofFile (path : Path) (content : Except Fault Octets) : Except SharedFault Settings :=
  match content with
  | .error fault =>
    if fault.isNotFound then .error (.settings (.missing path.shown)) else .error (.system fault)
  | .ok bs =>
    match Utf8.decode? bs with
    | none => .error (.system .notText)
    | some text =>
      match parse text with
      | .error why => .error (.settings why)
      | .ok s => s.checked

/-- **The settings of a file under the environment.** -/
def load (path : Path) (content : Except Fault Octets) (vars : Variables) :
    Except SharedFault Settings :=
  match ofFile path content with
  | .error fault => .error fault
  | .ok s => (s.overlay vars).checked

end NestedSession.Settings
