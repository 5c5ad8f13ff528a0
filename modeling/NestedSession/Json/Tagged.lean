import NestedSession.Json.Choice
import NestedSession.Child.Exit
import NestedSession.Environment.Backend
import NestedSession.Stream

/-!
# Json/Tagged — streams, grades, backends and exits as JSON

The small types of the library as values: each is written by `toJson` and, where a reader needs it,
read back by `ofJson`.
-/

namespace NestedSession

open Json

/-- An output as its name. -/
def Stream.toJson (s : Stream) : Json := .str s.name

/-- Read an output. -/
def Stream.ofJson : Json → Except Mismatch Stream :=
  Choice.read (Stream.all.map fun s => (s.name, .bare s))

/-- A grade as its name. -/
def Severity.toJson (s : Severity) : Json := .str s.name

/-- Read a grade. -/
def Severity.ofJson : Json → Except Mismatch Severity :=
  Choice.read [("critical", .bare .critical), ("warning", .bare .warning)]

/-- A backend as its name, or with the text it was asked for by. -/
def Backend.toJson : Backend → Json
  | .explicit token => .obj [("explicit", .str token)]
  | other => .str other.token

/-- Read a backend. -/
def Backend.ofJson : Json → Except Mismatch Backend :=
  Choice.read [("explicit", .text .explicit), ("wayland", .bare .wayland), ("x11", .bare .x11),
    ("headless", .bare .headless)]

/-- An exit as its kind and number. -/
def Exit.toJson : Exit → Json
  | .exited code => .obj [("kind", .str "exited"), ("value", .int code.toInt)]
  | .signaled signal => .obj [("kind", .str "signaled"), ("value", .int signal.toInt)]

/-- An exit that may be unknown. -/
def Exit.optionToJson : Option Exit → Json
  | some exit => exit.toJson
  | none => .null

end NestedSession
