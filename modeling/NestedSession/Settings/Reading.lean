import NestedSession.Settings.Basic
import NestedSession.Settings.Fault
import NestedSession.Text.Quoted
import NestedSession.Toml.Document
import NestedSession.Number.Shortest

/-!
# Settings/Reading — settings from a TOML document

A section is a table whose entries give some of the settings; the others keep their defaults, and
entries of other names mean nothing.  A section may also be an array with the settings in the order
of their declaration.  Entries are visited in the order of their names, and the first one that does
not fit is reported, with its line and column.
-/

namespace NestedSession

open Toml

/-- Why a document does not give settings. -/
inductive ReadFault where
  /-- It is no document, or holds a number that fits nowhere. -/
  | malformed
  /-- A value of the wrong kind stands at a place. -/
  | wrongKind (place : Nat) (found expected : String)
  /-- A number of the right kind is out of range. -/
  | wrongValue (place : Nat) (found expected : String)
  deriving DecidableEq, Repr, Inhabited

/-- A fault of a document in words. -/
def ReadFault.reason (source : List Char) : ReadFault → String
  | malformed => "TOML syntax error"
  | wrongKind place found expected =>
    let (line, column) := lineAndColumn source place
    s!"TOML type error at line {line}, column {column}: invalid type: {found}, expected {expected}"
  | wrongValue place found expected =>
    let (line, column) := lineAndColumn source place
    s!"TOML type error at line {line}, column {column}: invalid value: {found}, expected {expected}"

/-! ## Values -/

/-- A whole number in words, with its width if it needs more than 64 bits. -/
def integerName (n : Int) : String :=
  let width :=
    if -(Nat.pow 2 63 : Int) ≤ n && n < UInt64.size then ""
    else if n < Nat.pow 2 127 then " as i128" else " as u128"
  "integer `" ++ toString n ++ "`" ++ width

/-- The kind of a value, in words. -/
def kindName : Tree → String
  | .text s => "string " ++ Text.quoted s
  | .integer n => integerName n
  | .float x => "floating point `" ++ x.positional ++ "`"
  | .boolean b => "boolean `" ++ toString b ++ "`"
  | .array _ | .tables _ => "sequence"
  | .table _ _ | .dateTime | .outOfRange => "map"

/-- Refuse a value that is not of the expected kind. -/
def notA {α : Type} (expected : String) (place : Nat) (v : Tree) : Except ReadFault α :=
  match v with
  | .outOfRange => .error .malformed
  | v => .error (.wrongKind place (kindName v) expected)

/-- A value that is a text. -/
def textAt (place : Nat) : Tree → Except ReadFault String
  | .text s => .ok s
  | v => notA "a string" place v

/-- A value that is a truth value. -/
def truthAt (place : Nat) : Tree → Except ReadFault Bool
  | .boolean b => .ok b
  | v => notA "a boolean" place v

/-- A value that is a count. -/
def countAt (place : Nat) : Tree → Except ReadFault UInt64
  | .integer n =>
    if 0 ≤ n && n < UInt64.size then .ok (UInt64.ofNat n.toNat)
    else if -(Nat.pow 2 63 : Int) ≤ n && n < 0 then .error (.wrongValue place (integerName n) "u64")
    else .error (.wrongKind place (integerName n) "u64")
  | v => notA "u64" place v

/-- A value that is a list of texts. -/
def textsAt (place : Nat) : Tree → Except ReadFault (List String)
  | .array items | .tables items => items.mapM fun (place, v) => textAt place v
  | v => notA "a sequence" place v

mutual

/-- Whether every number in a value fits somewhere. -/
def inRange : Tree → Bool
  | .outOfRange => false
  | .array items | .tables items => itemsInRange items
  | .table _ entries => entriesInRange entries
  | _ => true

/-- Whether every number in a list of values fits somewhere. -/
def itemsInRange : List (Nat × Tree) → Bool
  | [] => true
  | (_, v) :: rest => inRange v && itemsInRange rest

/-- Whether every number in a table fits somewhere. -/
def entriesInRange : List (String × Nat × Tree) → Bool
  | [] => true
  | (_, _, v) :: rest => inRange v && entriesInRange rest

end

/-! ## Sections -/

/-- A setting of a section `σ`: its name, and how a value changes it. -/
structure Field (σ : Type) where
  name : String
  read : Nat → Tree → σ → Except ReadFault σ

variable {σ : Type}

/-- A setting that is any text. -/
def Field.text (name : String) (set : String → σ → σ) : Field σ :=
  ⟨name, fun place v s => (textAt place v).map (set · s)⟩

/-- A setting that is a truth value. -/
def Field.truth (name : String) (set : Bool → σ → σ) : Field σ :=
  ⟨name, fun place v s => (truthAt place v).map (set · s)⟩

/-- A setting that is a count. -/
def Field.count (name : String) (set : UInt64 → σ → σ) : Field σ :=
  ⟨name, fun place v s => (countAt place v).map (set · s)⟩

/-- A setting that is a list of words. -/
def Field.texts (name : String) (set : List String → σ → σ) : Field σ :=
  ⟨name, fun place v s => (textsAt place v).map (set · s)⟩

/-- Entries in the order of their names. -/
def sortedEntries (es : Entries) : Entries := es.mergeSort fun a b => decide (a.1 ≤ b.1)

/-- Take one entry of a table into a section; an unknown name changes nothing. -/
def readEntry (fields : List (Field σ)) (s : σ) (e : String × Nat × Tree) :
    Except ReadFault σ :=
  match fields.find? (·.name == e.1) with
  | some field => field.read e.2.1 e.2.2 s
  | none => if inRange e.2.2 then .ok s else .error .malformed

/-- **Read a table**: its entries in the order of their names. -/
def readTable (fields : List (Field σ)) (start : σ) (es : Entries) : Except ReadFault σ :=
  (sortedEntries es).foldlM (readEntry fields) start

/-- **Read a section.** -/
def readSection (kind : String) (fields : List (Field σ)) (start : σ) (place : Nat) :
    Tree → Except ReadFault σ
  | .table _ es => readTable fields start es
  | .array items | .tables items =>
    (fields.zip items).foldlM (fun s (field, place, v) => field.read place v s) start
  | .dateTime => .ok start
  | v => notA kind place v

/-- The settings of the program itself. -/
def generalFields : List (Field GeneralSettings) := [
  .text "log_level" fun v s => { s with logLevel := v },
  .text "log_format" fun v s => { s with logFormat := v }]

/-- The settings of the session. -/
def sessionFields : List (Field SessionSettings) := [
  .text "compositor" fun v s => { s with compositor := v },
  .texts "wrapper" fun v s => { s with wrapper := v },
  .truth "xwayland" fun v s => { s with xwayland := v },
  .text "compositor_config" fun v s => { s with compositorConfig := v },
  .text "launcher" fun v s => { s with launcher := v },
  .text "readiness_marker" fun v s => { s with readinessMarker := v },
  .count "startup_timeout_secs" fun v s => { s with startupTimeoutSecs := v },
  .count "wait_timeout_secs" fun v s => { s with waitTimeoutSecs := v },
  .count "poll_interval_ms" fun v s => { s with pollIntervalMs := v },
  .count "shutdown_timeout_secs" fun v s => { s with shutdownTimeoutSecs := v }]

/-- The settings of the log files. -/
def logFields : List (Field LogSettings) := [
  .truth "save" fun v s => { s with save := v },
  .text "dir" fun v s => { s with dir := v }]

/-- The sections. -/
def sectionFields : List (Field Settings) := [
  ⟨"general", fun place v s => do
    return { s with general := ← readSection "struct GeneralConfig" generalFields {} place v }⟩,
  ⟨"session", fun place v s => do
    return { s with session := ← readSection "struct SessionConfig" sessionFields {} place v }⟩,
  ⟨"logs", fun place v s => do
    return { s with logs := ← readSection "struct LogsConfig" logFields {} place v }⟩]

/-- The settings that the tables of a document give. -/
def Settings.ofEntries (es : Entries) : Except ReadFault Settings :=
  readTable sectionFields {} es

/-- **Read settings from a document.**  They are not checked. -/
def Settings.parse (source : String) : Except SettingsFault Settings :=
  let read := match document? source.toList with
    | some es => Settings.ofEntries es
    | none => .error .malformed
  read.mapError fun fault => .unreadable (fault.reason source.toList)

end NestedSession
