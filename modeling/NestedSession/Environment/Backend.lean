/-!
# Environment/Backend — where a nested compositor shows its output
-/

namespace NestedSession

/-- The backend of a nested compositor. -/
inductive Backend where
  /-- The one that the caller named. -/
  | explicit (token : String)
  /-- A window of the Wayland session around it. -/
  | wayland
  /-- A window of the X11 session around it. -/
  | x11
  /-- No display. -/
  | headless
  deriving DecidableEq, Repr, Inhabited

/-- The word that tells the compositor its backend. -/
def Backend.token : Backend → String
  | .explicit token => token
  | .wayland => "wayland"
  | .x11 => "x11"
  | .headless => "headless"

end NestedSession
