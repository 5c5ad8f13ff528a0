import NestedSession.CommandLine.Ink
import NestedSession.CommandLine.Outcome
import NestedSession.Json.Basic
import NestedSession.Settings.Loading
import NestedSession.Settings.Showing

/-!
# CommandLine/SettingsReport — whether settings make sense, and what they are

Validating insists on the file; showing falls back on the defaults if there is none
(`Settings.effective`).
-/

namespace NestedSession

/-- **The settings in force for a command**: without a file, the defaults under the environment. -/
def Settings.effective (path : Path) (content : Except Fault Octets) (vars : Variables) :
    Except CommandFault Settings :=
  match Settings.load path content vars with
  | .ok s => .ok s
  | .error (.settings (.missing _)) =>
    match (({} : Settings).overlay vars).checked with
    | .ok s => .ok s
    | .error fault => .error (.shared fault)
  | .error fault => .error (.settings fault.text)

/-! ## Validating -/

/-- Whether the settings of a file make sense. -/
structure ValidityReport where
  /-- The file. -/
  source : String
  /-- Why they do not. -/
  fault : Option String
  deriving DecidableEq, Repr, Inhabited

namespace ValidityReport

/-- A report for a reader. -/
def text (r : ValidityReport) (colours : Bool) : String :=
  "Config Validation: " ++ Ink.strong.paint colours r.source ++ "\n"
    ++ match r.fault with
      | none => "  Result: " ++ Ink.good.paint colours "VALID" ++ "\n"
      | some why => "  Result: " ++ Ink.bad.paint colours "INVALID" ++ "\n"
        ++ "  Error: " ++ Ink.wrong.paint colours why ++ "\n"

/-- A report as JSON. -/
def toJson (r : ValidityReport) : Json :=
  .obj [("source", .str r.source), ("valid", .bool r.fault.isNone),
    ("errors", .arr (r.fault.toList.map .str))]

/-- A report in one of the formats. -/
def render (r : ValidityReport) (format : OutputFormat) (colours : Bool) : String :=
  match format with
  | .text => r.text colours
  | .json => r.toJson.pretty ++ "\n"

end ValidityReport

/-- **Tell whether the settings of a file make sense.** -/
def validateSettings (path : Path) (content : Except Fault Octets) (vars : Variables)
    (format : OutputFormat) (colours : Bool) : CommandOutcome :=
  match Settings.load path content vars with
  | .ok _ => ⟨.ok (), ValidityReport.render ⟨path.shown, none⟩ format colours⟩
  | .error fault =>
    ⟨.error (.settings "configuration is invalid"),
      ValidityReport.render ⟨path.shown, some fault.text⟩ format colours⟩

/-! ## Showing -/

/-- The names of the sections. -/
def sectionNames : List String := ["general", "session", "logs"]

/-- The document of one section, or of all. -/
def Settings.sectionToml (s : Settings) : Option String → Except CommandFault (List Char)
  | none => .ok s.toToml
  | some "general" => .ok s.general.toToml
  | some "session" => .ok s.session.toToml
  | some "logs" => .ok s.logs.toToml
  | some other => .error <| .command
    ("unknown section: " ++ other ++ " (expected: " ++ String.intercalate ", " sectionNames ++ ")")

/-- The settings in force, as they are shown. -/
structure SettingsReport where
  /-- The file. -/
  source : String
  /-- The section, if not all are shown. -/
  part : Option String
  /-- The document. -/
  document : List Char
  deriving DecidableEq, Repr, Inhabited

namespace SettingsReport

/-- A report for a reader: a line about the file, an empty line, and the document. -/
def text (r : SettingsReport) (colours : Bool) : String :=
  (match r.part with
    | some name =>
      "Configuration " ++ Ink.strong.paint colours ("[" ++ name ++ "]") ++ " (source: "
        ++ r.source ++ ")"
    | none => "Configuration (source: " ++ Ink.strong.paint colours r.source ++ ")")
    ++ "\n\n" ++ String.ofList r.document

/-- A report as JSON, which leaves the document out. -/
def toJson (r : SettingsReport) : Json :=
  .obj (("source", .str r.source) :: (r.part.map fun name => ("section", Json.str name)).toList)

/-- A report in one of the formats. -/
def render (r : SettingsReport) (format : OutputFormat) (colours : Bool) : String :=
  match format with
  | .text => r.text colours
  | .json => r.toJson.pretty ++ "\n"

end SettingsReport

/-- **Show the settings in force**, or one section of them. -/
def showSettings (path : Path) (content : Except Fault Octets) (vars : Variables)
    (part : Option String) (format : OutputFormat) (colours : Bool) : CommandOutcome :=
  match Settings.effective path content vars with
  | .error fault => .failure fault
  | .ok s =>
    match s.sectionToml part with
    | .error fault => .failure fault
    | .ok document => ⟨.ok (), SettingsReport.render ⟨path.shown, part, document⟩ format colours⟩

end NestedSession
