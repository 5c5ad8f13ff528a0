import Mathlib.Data.List.Forall2
import NestedSession.Proofs.Settings.Kinds
import NestedSession.Proofs.Text.Incremental

/-!
# Proofs/Settings/Overlaying — each setting under the environment

A section has a slot for each of its settings: a name, a kind, how the value is looked up and how it
is replaced (`Slot`).  Under the name of its section a slot is a knob (`Knob`), and settings are
nothing but what their knobs say (`Settings.eq_of_knobs`).  Each knob looks at a variable of its own
(`Settings.get_overlay`), so the environment is felt knob by knob (`Settings.overlay_knobwise`).
-/

namespace NestedSession

/-! ## Slots -/

/-- **A setting of a section `σ`.** -/
structure Slot (σ : Type) where
  name : String
  kind : Kind
  get : σ → kind.Value
  set : kind.Value → σ → σ

/-- The settings of the program itself. -/
def generalSlots : List (Slot GeneralSettings) := [
  ⟨"log_level", .text, (·.logLevel), fun v s => { s with logLevel := v }⟩,
  ⟨"log_format", .text, (·.logFormat), fun v s => { s with logFormat := v }⟩]

/-- The settings of the session. -/
def sessionSlots : List (Slot SessionSettings) := [
  ⟨"compositor", .text, (·.compositor), fun v s => { s with compositor := v }⟩,
  ⟨"wrapper", .words, (·.wrapper), fun v s => { s with wrapper := v }⟩,
  ⟨"xwayland", .truth, (·.xwayland), fun v s => { s with xwayland := v }⟩,
  ⟨"compositor_config", .text, (·.compositorConfig), fun v s => { s with compositorConfig := v }⟩,
  ⟨"launcher", .text, (·.launcher), fun v s => { s with launcher := v }⟩,
  ⟨"readiness_marker", .text, (·.readinessMarker), fun v s => { s with readinessMarker := v }⟩,
  ⟨"startup_timeout_secs", .count, (·.startupTimeoutSecs),
    fun v s => { s with startupTimeoutSecs := v }⟩,
  ⟨"wait_timeout_secs", .count, (·.waitTimeoutSecs), fun v s => { s with waitTimeoutSecs := v }⟩,
  ⟨"poll_interval_ms", .count, (·.pollIntervalMs), fun v s => { s with pollIntervalMs := v }⟩,
  ⟨"shutdown_timeout_secs", .count, (·.shutdownTimeoutSecs),
    fun v s => { s with shutdownTimeoutSecs := v }⟩]

/-- The settings of the log files. -/
def logSlots : List (Slot LogSettings) := [
  ⟨"save", .truth, (·.save), fun v s => { s with save := v }⟩,
  ⟨"dir", .text, (·.dir), fun v s => { s with dir := v }⟩]

/-! ## Knobs -/

/-- **A setting among all settings.** -/
structure Knob where
  section_ : String
  name : String
  kind : Kind
  get : Settings → kind.Value

/-- A slot under the name of its section. -/
def Slot.knob {σ : Type} (section_ : String) (part : Settings → σ) (slot : Slot σ) : Knob :=
  ⟨section_, slot.name, slot.kind, slot.get ∘ part⟩

/-- The variable of a knob, named after the section and the setting. -/
def Knob.variableName (k : Knob) : String := settingVariable k.section_.toUpper k.name.toUpper

namespace Settings

/-- **All settings.** -/
def knobs : List Knob :=
  generalSlots.map (Slot.knob "general" general) ++ sessionSlots.map (Slot.knob "session" session)
    ++ logSlots.map (Slot.knob "logs" logs)

/-- **Settings are what their knobs say**, and nothing else. -/
theorem eq_of_knobs {s t : Settings} (same : ∀ k ∈ knobs, k.get s = k.get t) : s = t := by
  rcases s with ⟨⟨_, _⟩, ⟨_, _, _, _, _, _, _, _, _, _⟩, ⟨_, _⟩⟩
  rcases t with ⟨⟨_, _⟩, ⟨_, _, _, _, _, _, _, _, _, _⟩, ⟨_, _⟩⟩
  simpa [knobs, generalSlots, sessionSlots, logSlots, Slot.knob, and_assoc] using same

/-- No two settings share a variable. -/
theorem nodup_variableNames : (knobs.map Knob.variableName).Nodup := by decide +kernel

/-- The variable that each setting is looked up in. -/
def variableNames : List String := [
  settingVariable "GENERAL" "LOG_LEVEL",
  settingVariable "GENERAL" "LOG_FORMAT",
  settingVariable "SESSION" "COMPOSITOR",
  settingVariable "SESSION" "WRAPPER",
  settingVariable "SESSION" "XWAYLAND",
  settingVariable "SESSION" "COMPOSITOR_CONFIG",
  settingVariable "SESSION" "LAUNCHER",
  settingVariable "SESSION" "READINESS_MARKER",
  settingVariable "SESSION" "STARTUP_TIMEOUT_SECS",
  settingVariable "SESSION" "WAIT_TIMEOUT_SECS",
  settingVariable "SESSION" "POLL_INTERVAL_MS",
  settingVariable "SESSION" "SHUTDOWN_TIMEOUT_SECS",
  settingVariable "LOGS" "SAVE",
  settingVariable "LOGS" "DIR"]

/-- They are named by the rule. -/
theorem map_variableName_knobs : knobs.map Knob.variableName = variableNames := by decide +kernel

/-- **Each setting looks at its own variable.** -/
theorem get_overlay_eq_over (s : Settings) (vars : Variables) :
    ∀ k ∈ knobs, k.get (s.overlay vars) = k.kind.overlay vars k.variableName (k.get s) := by
  have rows : List.Forall₂ (fun k name => k.get (s.overlay vars) = k.kind.overlay vars name (k.get s))
      knobs variableNames := by
    repeat first | exact .nil | refine .cons rfl ?_
  rw [← map_variableName_knobs, List.forall₂_map_right_iff, List.forall₂_same] at rows
  exact rows

/-- A setting under the environment: what its variable says, or else what it was. -/
theorem get_overlay {k : Knob} (there : k ∈ knobs) (s : Settings) (vars : Variables) :
    k.get (s.overlay vars) = ((vars.text? k.variableName).bind k.kind.read?).getD (k.get s) := by
  rw [get_overlay_eq_over s vars k there, Kind.overlay_eq]

end Settings

/-! ## Texts of variables -/

theorem Utf8.decode?_eq_some_iff {bs : Octets} {text : String} :
    decode? bs = some text ↔ bs = encode text := by
  refine ⟨fun decoded => (encode_of_decode? decoded).symm, ?_⟩
  rintro rfl
  rw [decode?, Decoder.lossy_encode, if_pos rfl]

/-- A variable is a text if its octets are those of the text. -/
theorem Variables.text?_eq_some_iff {vars : Variables} {name text : String} :
    vars.text? name = some text ↔ vars.get? (Utf8.encode name) = some (Utf8.encode text) := by
  simp only [text?, Option.bind_eq_some_iff, Utf8.decode?_eq_some_iff, exists_eq_right]

/-- **A variable says a value** for a knob: it is a text that does. -/
def Knob.IsSaid (k : Knob) (vars : Variables) (v : k.kind.Value) : Prop :=
  ∃ t, vars.get? (Utf8.encode k.variableName) = some (Utf8.encode t) ∧ k.kind.Says t v

theorem Knob.isSaid_iff {k : Knob} {vars : Variables} {v : k.kind.Value} :
    k.IsSaid vars v ↔ (vars.text? k.variableName).bind k.kind.read? = some v := by
  simp only [IsSaid, Option.bind_eq_some_iff, Variables.text?_eq_some_iff, Kind.read?_eq_some_iff]

namespace Settings

variable {k : Knob} {vars : Variables}

/-- What is said counts. -/
theorem get_overlay_of_isSaid (there : k ∈ knobs) (s : Settings) {v : k.kind.Value}
    (said : k.IsSaid vars v) : k.get (s.overlay vars) = v := by
  rw [get_overlay there, Knob.isSaid_iff.mp said, Option.getD_some]

/-- If nothing is said, nothing changes. -/
theorem get_overlay_of_silent (there : k ∈ knobs) (s : Settings) (silent : ∀ v, ¬ k.IsSaid vars v) :
    k.get (s.overlay vars) = k.get s := by
  have none : (vars.text? k.variableName).bind k.kind.read? = none :=
    Option.eq_none_iff_forall_ne_some.mpr fun v eq => silent v (Knob.isSaid_iff.mpr eq)
  rw [get_overlay there, none, Option.getD_none]

/-- What a setting was and what its variable holds is all that counts. -/
theorem get_overlay_congr (there : k ∈ knobs) {s s' : Settings} {vars' : Variables}
    (was : k.get s' = k.get s)
    (holds : vars'.get? (Utf8.encode k.variableName) = vars.get? (Utf8.encode k.variableName)) :
    k.get (s'.overlay vars') = k.get (s.overlay vars) := by
  have text : vars'.text? k.variableName = vars.text? k.variableName := by
    rw [Variables.text?, Variables.text?, holds]
  rw [get_overlay there, get_overlay there, text, was]

/-- The environment once more says nothing new. -/
theorem overlay_overlay (s : Settings) (vars : Variables) :
    (s.overlay vars).overlay vars = s.overlay vars := by
  refine eq_of_knobs fun k there => ?_
  simp only [get_overlay there]
  cases (vars.text? k.variableName).bind k.kind.read? <;> rfl

/-- **The environment is felt knob by knob**, whatever it holds and whatever the settings were.

* The knobs are all of the settings, and each has a variable of its own.
* If the variable of a knob is a text that says a value of its kind, that is the value; if it is not
  set, not a text, or a text that says nothing, the setting stays as it was.
* Nothing else counts: neither the other settings nor the other variables.
* The wrapper becomes the words of its variable, none of which is empty; and any words become the
  wrapper if they are joined by single spaces.
* The environment may be laid over the settings again, and that changes nothing. -/
theorem overlay_knobwise (s : Settings) (vars : Variables) :
    ((knobs.map Knob.variableName).Nodup ∧ knobs.length = 14
      ∧ ∀ s t : Settings, (∀ k ∈ knobs, k.get s = k.get t) → s = t)
    ∧ (∀ k ∈ knobs,
        (∀ v, k.IsSaid vars v → k.get (s.overlay vars) = v)
        ∧ ((∀ v, ¬ k.IsSaid vars v) → k.get (s.overlay vars) = k.get s)
        ∧ (∀ s' vars', k.get s' = k.get s
          → vars'.get? (Utf8.encode k.variableName) = vars.get? (Utf8.encode k.variableName)
          → k.get (s'.overlay vars') = k.get (s.overlay vars))
        ∧ ∀ name value, name ≠ Utf8.encode k.variableName
          → k.get (s.overlay (vars.insert name value)) = k.get (s.overlay vars))
    ∧ (∀ t, vars.get? (Utf8.encode "PHOSH_ITEST_SESSION_WRAPPER") = some (Utf8.encode t)
        → Text.AreWords t.toList (s.overlay vars).session.wrapper
          ∧ "" ∉ (s.overlay vars).session.wrapper
          ∧ ∀ ws, t = " ".intercalate ws → (∀ w ∈ ws, Text.IsWord w)
            → (s.overlay vars).session.wrapper = ws)
    ∧ (s.overlay vars).overlay vars = s.overlay vars := by
  refine ⟨⟨nodup_variableNames, rfl, fun _ _ => eq_of_knobs⟩, fun k there =>
    ⟨fun v => get_overlay_of_isSaid there s, get_overlay_of_silent there s,
      fun s' vars' => get_overlay_congr there, fun name value other =>
      get_overlay_congr there rfl ?_⟩, fun t set => ?_, s.overlay_overlay vars⟩
  · rw [Variables.get?_insert, if_neg other.symm]
  · have wrapper : (s.overlay vars).session.wrapper = Text.words t :=
      congrArg (fun text => (Option.map Text.words text).getD s.session.wrapper)
        (Variables.text?_eq_some_iff.mpr set)
    have words : Text.AreWords t.toList (s.overlay vars).session.wrapper :=
      Text.words_eq_iff.mp wrapper.symm
    refine ⟨words, fun empty => (words.isWord _ empty).1 rfl, ?_⟩
    rintro ws rfl each
    rw [wrapper]
    exact Text.words_eq_iff.mpr (Text.areWords_intercalate each)

/-- An environment with words for the wrapper, a count with idle zeros, and a truth value in
capitals. -/
def wrapped : Variables := .ofList [
  (Utf8.encode "PHOSH_ITEST_SESSION_WRAPPER", Utf8.encode "env -i"),
  (Utf8.encode "PHOSH_ITEST_SESSION_STARTUP_TIMEOUT_SECS", Utf8.encode "+0030"),
  (Utf8.encode "PHOSH_ITEST_SESSION_XWAYLAND", Utf8.encode "TRUE")]

/-- The first two are taken, and the third says nothing. -/
theorem overlay_knobwise_wrapped :
    (({} : Settings).overlay wrapped).session.wrapper = ["env", "-i"]
    ∧ (({} : Settings).overlay wrapped).session.startupTimeoutSecs = 30
    ∧ (({} : Settings).overlay wrapped).session.xwayland = false := by
  obtain ⟨-, knobwise, wrapper, -⟩ := overlay_knobwise {} wrapped
  have words : ∀ w ∈ ["env", "-i"], Text.IsWord w := by
    simp [Text.IsWord]
    decide
  let timeout : Knob :=
    ⟨"session", "startup_timeout_secs", .count, (·.session.startupTimeoutSecs)⟩
  let xwayland : Knob := ⟨"session", "xwayland", .truth, (·.session.xwayland)⟩
  have taken : timeout.IsSaid wrapped (30 : UInt64) := Knob.isSaid_iff.mpr (by decide +kernel)
  have silent : (wrapped.text? xwayland.variableName).bind xwayland.kind.read? = none := by
    decide +kernel
  refine ⟨(wrapper "env -i" (by decide +kernel)).2.2 _ (by decide +kernel) words,
    (knobwise timeout (List.mem_of_getElem? (i := 8) rfl)).1 _ taken,
    (knobwise xwayland (List.mem_of_getElem? (i := 4) rfl)).2.1 fun v said => ?_⟩
  rw [Knob.isSaid_iff, silent] at said
  cases said

end Settings

end NestedSession
