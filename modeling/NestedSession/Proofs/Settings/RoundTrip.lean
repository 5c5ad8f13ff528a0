import Mathlib.Data.List.Nodup
import Mathlib.Data.List.Perm.Basic
import NestedSession.CommandLine.SettingsReport
import NestedSession.Proofs.Toml.Documents

/-!
# Proofs/Settings/RoundTrip — settings that are shown are read back as they were

Every setting is shown on a line of its own (`Setting`), and reading the line changes the setting
and no other.  Entries are read in the order of their names and not in that of the lines, which
does not matter because changes of different settings commute (`readTable_of_effects`).  So the
settings that a document shows are read back from it, all of them (`Settings.parse_shown`).
-/

namespace NestedSession

open Toml

variable {σ : Type}

/-! ## Entries -/

/-- A setting of a section `σ`, and the change that an entry for it makes. -/
structure Effect (σ : Type) where
  field : Field σ
  change : σ → σ

/-- An entry that makes the change. -/
def Effect.Holds (w : Effect σ) (e : String × Nat × Tree) : Prop :=
  e.1 = w.field.name ∧ ∀ place s, w.field.read place e.2.2 s = .ok (w.change s)

/-- A setting is found by its name. -/
theorem find?_field {fields : List (Field σ)} (distinct : (fields.map Field.name).Nodup)
    {field : Field σ} (there : field ∈ fields) :
    fields.find? (·.name == field.name) = some field := by
  obtain ⟨found, eq⟩ : ∃ found, fields.find? (·.name == field.name) = some found :=
    Option.isSome_iff_exists.mp (List.find?_isSome.mpr ⟨field, there, beq_self_eq_true _⟩)
  have same : found.name = field.name := by simpa using List.find?_some eq
  rw [eq, List.inj_on_of_nodup_map distinct (List.mem_of_find?_eq_some eq) there same]

theorem foldlM_readEntry {fields : List (Field σ)} {ws : List (Effect σ)} {es : Entries}
    (holds : List.Forall₂ (fun e (w : Effect σ) => w.Holds e) es ws)
    (found : ∀ w ∈ ws, fields.find? (·.name == w.field.name) = some w.field) (s : σ) :
    es.foldlM (readEntry fields) s = .ok (ws.foldl (fun s w => w.change s) s) := by
  induction holds generalizing s with
  | nil => rfl
  | @cons e w es ws first others ih =>
    obtain ⟨here, found⟩ := List.forall_mem_cons.mp found
    have read : readEntry fields s e = .ok (w.change s) := by
      rw [readEntry, first.1, here]
      exact first.2 _ _
    rw [List.foldlM_cons, read, List.foldl_cons]
    exact ih found _

/-- **A table whose entries make changes of different settings** is read as all of them, in any
order. -/
theorem readTable_of_effects {ws : List (Effect σ)} {es : Entries}
    (holds : List.Forall₂ Effect.Holds ws es)
    (distinct : ((ws.map Effect.field).map Field.name).Nodup)
    (commute : ∀ v ∈ ws, ∀ w ∈ ws, ∀ s, v.change (w.change s) = w.change (v.change s)) (start : σ) :
    readTable (ws.map Effect.field) start es = .ok (ws.foldl (fun s w => w.change s) start) := by
  obtain ⟨ws', sorted, perm⟩ := List.perm_comp_forall₂ (List.mergeSort_perm es _) holds.flip
  have found : ∀ w ∈ ws', (ws.map Effect.field).find? (·.name == w.field.name) = some w.field :=
    fun w there => find?_field distinct (List.mem_map_of_mem (perm.mem_iff.mp there))
  rw [readTable, sortedEntries, foldlM_readEntry sorted found,
    ← perm.symm.foldl_eq' (fun v hv w hw s => commute w hw v hv s)]

/-! ## Values -/

theorem textsAt_array {items : List (Nat × Tree)} {ts : List String}
    (texts : items.map Prod.snd = ts.map .text) (place : Nat) :
    textsAt place (.array items) = .ok ts := by
  rw [textsAt]
  induction items generalizing ts with
  | nil =>
    rw [List.map_eq_nil_iff.mp texts.symm]
    rfl
  | cons item items ih =>
    obtain ⟨place, v⟩ := item
    rcases ts with _ | ⟨t, ts⟩
    · cases texts
    · obtain ⟨first, others⟩ := List.cons.inj texts
      cases first
      rw [List.mapM_cons, ih others]
      rfl

theorem countAt_toNat (place : Nat) (n : UInt64) :
    countAt place (.integer n.toNat) = .ok n := by
  have fits : (0 : Int) ≤ n.toNat ∧ (n.toNat : Int) < UInt64.size :=
    ⟨Int.natCast_nonneg _, Int.ofNat_lt.mpr n.toNat_lt_size⟩
  rw [countAt, if_pos (by simpa using fits), Int.toNat_natCast, UInt64.ofNat_toNat]

/-! ## Lines -/

/-- **A setting as it is shown**: what is written behind its name is read as the change. -/
structure Setting (σ : Type) extends Effect σ where
  written : List Char
  bare : isBareName field.name = true
  reads : ReadsAs written fun v => ∀ place s, field.read place v s = .ok (change s)

namespace Setting

/-- The line of a setting. -/
def assignment (w : Setting σ) : Assignment :=
  ⟨w.field.name, w.written, fun v => ∀ place s, w.field.read place v s = .ok (w.change s), w.bare,
    w.reads⟩

/-- A text that is shown. -/
def text (name : String) (set : String → σ → σ) (bare : isBareName name = true) (value : String) :
    Setting σ where
  field := .text name set
  change := set value
  written := writeString value
  bare := bare
  reads := (readsAs_writeString value).imp fun _ eq _ _ => eq ▸ rfl

/-- A truth value that is shown. -/
def truth (name : String) (set : Bool → σ → σ) (bare : isBareName name = true) (value : Bool) :
    Setting σ where
  field := .truth name set
  change := set value
  written := writeBool value
  bare := bare
  reads := (readsAs_writeBool value).imp fun _ eq _ _ => eq ▸ rfl

/-- A count that is shown. -/
def count (name : String) (set : UInt64 → σ → σ) (bare : isBareName name = true) (value : UInt64) :
    Setting σ where
  field := .count name set
  change := set value
  written := writeNat value.toNat
  bare := bare
  reads := (readsAs_writeNat value.toNat_lt_size).imp fun v eq place s => by
    have read : countAt place v = .ok value := eq ▸ countAt_toNat place value
    exact congrArg (Except.map (set · s)) read

/-- A list of words that is shown. -/
def texts (name : String) (set : List String → σ → σ) (bare : isBareName name = true)
    (value : List String) : Setting σ where
  field := .texts name set
  change := set value
  written := writeStrings value
  bare := bare
  reads := (readsAs_writeStrings value).imp fun v meant place s => by
    obtain ⟨items, rfl, words⟩ := meant
    exact congrArg (Except.map (set · s)) (textsAt_array words place)

end Setting

/-! ## Sections -/

/-- **A section as it is shown**: a line for each of its fields.  Their changes do not get in each
other's way, and all of them together make the section, whatever it was. -/
structure Shown (fields : List (Field σ)) (section_ : σ) where
  settings : List (Setting σ)
  covers : settings.map (·.field) = fields
  commute : ∀ v ∈ settings, ∀ w ∈ settings, ∀ s, v.change (w.change s) = w.change (v.change s)
  whole : ∀ s, settings.foldl (fun s w => w.change s) s = section_

namespace Shown

variable {fields : List (Field σ)} {section_ : σ}

/-- The entries that a section as it is shown has. -/
def assignments (shown : Shown fields section_) : List Assignment :=
  shown.settings.map Setting.assignment

theorem names_assignments (shown : Shown fields section_) :
    shown.assignments.map Assignment.name = fields.map Field.name := by
  have names := congrArg (List.map Field.name) shown.covers
  rw [List.map_map] at names
  rw [assignments, List.map_map]
  exact names

/-- **A section that is shown is read back.** -/
theorem readTable_eq (shown : Shown fields section_) (distinct : (fields.map Field.name).Nodup)
    {es : Entries} (holds : List.Forall₂ Assignment.Holds shown.assignments es) (start : σ) :
    readTable fields start es = .ok section_ := by
  have effects : (shown.settings.map Setting.toEffect).map Effect.field = fields := by
    rw [List.map_map]
    exact shown.covers
  have made : List.Forall₂ Effect.Holds (shown.settings.map Setting.toEffect) es := by
    rw [assignments, List.forall₂_map_left_iff] at holds
    exact List.forall₂_map_left_iff.mpr holds
  have commute : ∀ v ∈ shown.settings.map Setting.toEffect,
      ∀ w ∈ shown.settings.map Setting.toEffect, ∀ s,
        v.change (w.change s) = w.change (v.change s) := by
    rw [List.forall_mem_map]
    intro v hv
    rw [List.forall_mem_map]
    exact shown.commute v hv
  rw [← effects] at distinct ⊢
  rw [readTable_of_effects made distinct commute, List.foldl_map, shown.whole]

/-- A section under its header. -/
def part (shown : Shown fields section_) (name : String) (bare : isBareName name = true)
    (distinct : (fields.map Field.name).Nodup) : Part :=
  ⟨name, shown.assignments, bare, shown.names_assignments ▸ distinct⟩

theorem readSection_eq {shown : Shown fields section_} {name : String}
    {bare : isBareName name = true} {distinct : (fields.map Field.name).Nodup}
    {e : String × Nat × Tree} (holds : (shown.part name bare distinct).Holds e) (kind : String)
    (start : σ) (place : Nat) : readSection kind fields start place e.2.2 = .ok section_ := by
  obtain ⟨-, es, table, entries⟩ := holds
  rw [table, readSection]
  exact shown.readTable_eq distinct entries start

end Shown

/-- The settings of the program itself, as they are shown. -/
def GeneralSettings.shown (s : GeneralSettings) : Shown generalFields s where
  settings := [
    .text "log_level" (fun v s => { s with logLevel := v }) rfl s.logLevel,
    .text "log_format" (fun v s => { s with logFormat := v }) rfl s.logFormat]
  covers := rfl
  commute := by
    intro v hv w hw s
    simp only [List.mem_cons, List.not_mem_nil, or_false] at hv hw
    rcases hv with rfl | rfl <;> rcases hw with rfl | rfl <;> rfl
  whole := fun _ => rfl

theorem GeneralSettings.toToml_eq (s : GeneralSettings) :
    s.toToml = s.shown.assignments.flatMap Assignment.line := by
  simp only [toToml, Shown.assignments, shown, List.map_cons, List.map_nil, List.flatMap_cons,
    List.flatMap_nil, List.append_nil]
  rfl

/-- The settings of the session, as they are shown. -/
def SessionSettings.shown (s : SessionSettings) : Shown sessionFields s where
  settings := [
    .text "compositor" (fun v s => { s with compositor := v }) rfl s.compositor,
    .texts "wrapper" (fun v s => { s with wrapper := v }) rfl s.wrapper,
    .truth "xwayland" (fun v s => { s with xwayland := v }) rfl s.xwayland,
    .text "compositor_config" (fun v s => { s with compositorConfig := v }) rfl s.compositorConfig,
    .text "launcher" (fun v s => { s with launcher := v }) rfl s.launcher,
    .text "readiness_marker" (fun v s => { s with readinessMarker := v }) rfl s.readinessMarker,
    .count "startup_timeout_secs" (fun v s => { s with startupTimeoutSecs := v }) rfl
      s.startupTimeoutSecs,
    .count "wait_timeout_secs" (fun v s => { s with waitTimeoutSecs := v }) rfl s.waitTimeoutSecs,
    .count "poll_interval_ms" (fun v s => { s with pollIntervalMs := v }) rfl s.pollIntervalMs,
    .count "shutdown_timeout_secs" (fun v s => { s with shutdownTimeoutSecs := v }) rfl
      s.shutdownTimeoutSecs]
  covers := rfl
  commute := by
    intro v hv w hw s
    simp only [List.mem_cons, List.not_mem_nil, or_false] at hv hw
    rcases hv with rfl | rfl | rfl | rfl | rfl | rfl | rfl | rfl | rfl | rfl <;>
      rcases hw with rfl | rfl | rfl | rfl | rfl | rfl | rfl | rfl | rfl | rfl <;> rfl
  whole := fun s => by
    simp only [List.foldl_cons, List.foldl_nil, Setting.text, Setting.texts, Setting.truth,
      Setting.count]

theorem SessionSettings.toToml_eq (s : SessionSettings) :
    s.toToml = s.shown.assignments.flatMap Assignment.line := by
  simp only [toToml, Shown.assignments, shown, List.map_cons, List.map_nil, List.flatMap_cons,
    List.flatMap_nil, List.append_nil, List.append_assoc]
  rfl

/-- The settings of the log files, as they are shown. -/
def LogSettings.shown (s : LogSettings) : Shown logFields s where
  settings := [
    .truth "save" (fun v s => { s with save := v }) rfl s.save,
    .text "dir" (fun v s => { s with dir := v }) rfl s.dir]
  covers := rfl
  commute := by
    intro v hv w hw s
    simp only [List.mem_cons, List.not_mem_nil, or_false] at hv hw
    rcases hv with rfl | rfl <;> rcases hw with rfl | rfl <;> rfl
  whole := fun _ => rfl

theorem LogSettings.toToml_eq (s : LogSettings) :
    s.toToml = s.shown.assignments.flatMap Assignment.line := by
  simp only [toToml, Shown.assignments, shown, List.map_cons, List.map_nil, List.flatMap_cons,
    List.flatMap_nil, List.append_nil]
  rfl

/-! ## Documents -/

namespace Settings

/-- The sections of all settings, as they are shown. -/
def parts (s : Settings) : List Part := [
  s.general.shown.part "general" rfl (by decide),
  s.session.shown.part "session" rfl (by decide),
  s.logs.shown.part "logs" rfl (by decide)]

/-- **The document is made of these sections.** -/
theorem toToml_eq (s : Settings) : s.toToml = writeParts s.parts := by
  simp only [writeParts, parts, List.map_cons, List.map_nil, List.intercalate_cons_cons,
    List.intercalate_singleton, Part.lines, Shown.part, ← GeneralSettings.toToml_eq,
    ← SessionSettings.toToml_eq, ← LogSettings.toToml_eq, toToml, List.append_assoc]

/-- What the sections of a document do to all settings. -/
def effects (s : Settings) : List (Effect Settings) :=
  List.zipWith Effect.mk sectionFields [
    fun t => { t with general := s.general },
    fun t => { t with session := s.session },
    fun t => { t with logs := s.logs }]

theorem holds_effects {s : Settings} {es : Entries} (holds : List.Forall₂ Part.Holds s.parts es) :
    List.Forall₂ Effect.Holds s.effects es := by
  obtain _ | ⟨general, _ | ⟨session, _ | ⟨logs, _ | _⟩⟩⟩ := holds
  refine .cons ⟨general.1, fun place t => ?_⟩ (.cons ⟨session.1, fun place t => ?_⟩
    (.cons ⟨logs.1, fun place t => ?_⟩ .nil))
  · have read := Shown.readSection_eq general "struct GeneralConfig" {} place
    simp only [read]
    rfl
  · have read := Shown.readSection_eq session "struct SessionConfig" {} place
    simp only [read]
    rfl
  · have read := Shown.readSection_eq logs "struct LogsConfig" {} place
    simp only [read]
    rfl

theorem ofEntries_eq {s : Settings} {es : Entries} (holds : List.Forall₂ Part.Holds s.parts es) :
    ofEntries es = .ok s := by
  have distinct : (sectionFields.map Field.name).Nodup := by decide
  have commute : ∀ v ∈ s.effects, ∀ w ∈ s.effects, ∀ t,
      v.change (w.change t) = w.change (v.change t) := by
    intro v hv w hw t
    simp only [effects, sectionFields, List.zipWith_cons_cons, List.zipWith_nil_right,
      List.mem_cons, List.not_mem_nil, or_false] at hv hw
    rcases hv with rfl | rfl | rfl <;> rcases hw with rfl | rfl | rfl <;> rfl
  exact readTable_of_effects (holds_effects holds) distinct commute {}

/-- **Settings that are shown are read back as they were**, whatever they are. -/
theorem parse_shown (s : Settings) :
    ∃ document, s.sectionToml none = .ok document ∧ parse (String.ofList document) = .ok s := by
  have distinct : ["general", "session", "logs"].Nodup := by decide
  have some_ : s.parts ≠ [] := List.cons_ne_nil _ _
  obtain ⟨es, read, holds⟩ := document?_writeParts some_ distinct
  refine ⟨s.toToml, rfl, ?_⟩
  rw [parse, String.toList_ofList, s.toToml_eq, read]
  dsimp only
  rw [ofEntries_eq holds]
  rfl

end Settings

end NestedSession
