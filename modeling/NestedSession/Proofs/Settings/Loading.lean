import Mathlib
import NestedSession.Proofs.Settings.Validity
import NestedSession.Settings.Loading

/-!
# Proofs/Settings/Loading — which files can be loaded, and in which environment

Loading reads a file, lets the environment change what it says, and checks what comes out; but
before that it checks what the file says by itself.  So the environment wins over a file that makes
sense alone: of such a file it is the outcome that counts (`Settings.load_of_sound`).  A file that
makes none cannot be loaded, whatever the environment says (`Settings.load_of_refused`), although
there always is an environment under which it would make sense (`Settings.sound_overlay_sane`).
-/

namespace NestedSession.Settings

open Variables

/-! ## Settings that are checked -/

theorem checked_eq_ok_iff {s t : Settings} : s.checked = .ok t ↔ t = s ∧ s.Sound := by
  rw [checked, ← s.check_eq_ok_iff]
  cases s.check with
  | error why => simp
  | ok u => simp [eq_comm]

theorem checked_eq_error_iff {s : Settings} {why : SettingsFault} :
    s.checked = .error (.settings why) ↔ s.check = .error why := by
  rw [checked]
  cases s.check <;> simp

/-! ## A file that can be read -/

section

variable {path : Path} {bs : Octets} {text : String} {s : Settings}
  (decoded : Utf8.decode? bs = some text) (parsed : parse text = .ok s)
include decoded parsed

theorem ofFile_of_parse : ofFile path (.ok bs) = s.checked := by
  simp only [ofFile, decoded, parsed]

/-- A file that makes sense alone: what counts is what the environment makes of it. -/
theorem load_of_sound (sound : s.Sound) (vars : Variables) :
    load path (.ok bs) vars = (s.overlay vars).checked := by
  rw [load, ofFile_of_parse decoded parsed, checked_eq_ok_iff.mpr ⟨rfl, sound⟩]

/-- **A file that makes no sense alone** cannot be loaded, and the environment has no say. -/
theorem load_of_refused {why : SettingsFault} (refused : s.check = .error why)
    (vars : Variables) : load path (.ok bs) vars = .error (.settings why) := by
  rw [load, ofFile_of_parse decoded parsed, checked_eq_error_iff.mpr refused]

end

/-! ## An environment for every file -/

/-- A text that is set is what counts, whatever the setting was. -/
theorem overText_of_text? {vars : Variables} {name value : String}
    (set : vars.text? name = some value) (old : String) : vars.overText name old = value := by
  rw [overText, set, Option.getD_some]

theorem overTruth_of_text? {vars : Variables} {name value : String} {truth : Bool}
    (set : vars.text? name = some value) (read : truthOf? value = some truth) (old : Bool) :
    vars.overTruth name old = truth := by
  rw [overTruth, set, Option.bind_some, read, Option.getD_some]

theorem overCount_of_text? {vars : Variables} {name value : String} {count : UInt64}
    (set : vars.text? name = some value) (read : (Count.read value).toOption = some count)
    (old : UInt64) : vars.overCount name old = count := by
  rw [overCount, set, Option.bind_some, read, Option.getD_some]

/-- Values that make sense, for the settings that the check looks at. -/
def saneTexts : List (String × String) :=
  [(settingVariable "GENERAL" "LOG_LEVEL", "info"),
    (settingVariable "GENERAL" "LOG_FORMAT", "pretty"),
    (settingVariable "SESSION" "COMPOSITOR", "phoc"),
    (settingVariable "SESSION" "READINESS_MARKER", "Phosh ready after"),
    (settingVariable "SESSION" "STARTUP_TIMEOUT_SECS", "5"),
    (settingVariable "SESSION" "POLL_INTERVAL_MS", "1000"),
    (settingVariable "SESSION" "SHUTDOWN_TIMEOUT_SECS", "10"),
    (settingVariable "LOGS" "SAVE", "false")]

/-- **An environment in which any settings make sense.** -/
def sane : Variables :=
  .ofList (saneTexts.map fun (name, value) => (Utf8.encode name, Utf8.encode value))

theorem text?_sane : ∀ e ∈ saneTexts, sane.text? e.1 = some e.2 := by decide +kernel

theorem sound_overlay_sane (s : Settings) : (s.overlay sane).Sound := by
  have given (e : String × String) (listed : saneTexts.contains e = true) :
      sane.text? e.1 = some e.2 := text?_sane e (List.contains_iff_mem.mp listed)
  have level : (s.overlay sane).general.logLevel = "info" :=
    overText_of_text? (given (_, "info") rfl) _
  have format : (s.overlay sane).general.logFormat = "pretty" :=
    overText_of_text? (given (_, "pretty") rfl) _
  have compositor : (s.overlay sane).session.compositor = "phoc" :=
    overText_of_text? (given (_, "phoc") rfl) _
  have marker : (s.overlay sane).session.readinessMarker = "Phosh ready after" :=
    overText_of_text? (given (_, "Phosh ready after") rfl) _
  have startup : (s.overlay sane).session.startupTimeoutSecs = 5 :=
    overCount_of_text? (given (_, "5") rfl) (by decide) _
  have interval : (s.overlay sane).session.pollIntervalMs = 1000 :=
    overCount_of_text? (given (_, "1000") rfl) (by decide) _
  have shutdown : (s.overlay sane).session.shutdownTimeoutSecs = 10 :=
    overCount_of_text? (given (_, "10") rfl) (by decide) _
  have save : (s.overlay sane).logs.save = false :=
    overTruth_of_text? (given (_, "false") rfl) rfl _
  refine ⟨?_, ?_, ⟨?_, ?_, ?_, ?_, ?_⟩, ?_⟩
  · rw [level]; decide
  · rw [format]; decide
  · rw [compositor]; exact ⟨'p', by decide, by decide⟩
  · rw [marker]; decide
  · rw [interval]; decide
  · rw [SessionSettings.pollInterval, SessionSettings.startupTimeout, interval, startup]; decide
  · rw [shutdown]; decide
  · rw [save]; exact nofun

/-! ## Loading, in full -/

/-- **What the loading of a file that can be read comes to.**

* Settings are loaded exactly if what the file says makes sense alone and makes sense under the
  environment, and they are the latter.
* Else the first condition that fails is reported, that of the file before that of the outcome.
* So to load exactly what makes sense under the environment, as is to be expected of an environment
  that wins over the file, the file has to make sense alone, or not even under the environment.
* For no other file does every environment win: there is one under which it makes sense and is
  refused all the same. -/
theorem load_characterised {path : Path} {bs : Octets} {text : String} {s : Settings}
    (decoded : Utf8.decode? bs = some text) (parsed : parse text = .ok s) :
    (∀ vars t, load path (.ok bs) vars = .ok t ↔ t = s.overlay vars ∧ s.Sound ∧ t.Sound)
    ∧ (∀ vars why, load path (.ok bs) vars = .error (.settings why)
        ↔ s.check = .error why ∨ s.Sound ∧ (s.overlay vars).check = .error why)
    ∧ (∀ vars, ((∃ t, load path (.ok bs) vars = .ok t) ↔ (s.overlay vars).Sound)
        ↔ s.Sound ∨ ¬ (s.overlay vars).Sound)
    ∧ (¬ s.Sound → ∃ vars, (s.overlay vars).Sound ∧ ∀ t, load path (.ok bs) vars ≠ .ok t) := by
  have loaded (vars : Variables) (t : Settings) :
      load path (.ok bs) vars = .ok t ↔ t = s.overlay vars ∧ s.Sound ∧ t.Sound := by
    cases checked : s.check with
    | error why =>
      have unsound : ¬ s.Sound := by simp [← s.check_eq_ok_iff, checked]
      simp [load_of_refused decoded parsed checked, unsound]
    | ok u =>
      have sound : s.Sound := s.check_eq_ok_iff.mp checked
      rw [load_of_sound decoded parsed sound, checked_eq_ok_iff]
      simp only [sound, true_and, and_congr_right_iff]
      rintro rfl
      rfl
  refine ⟨loaded, fun vars why => ?_, fun vars => ?_, fun unsound =>
    ⟨sane, s.sound_overlay_sane, fun t ok => unsound ((loaded sane t).mp ok).2.1⟩⟩
  · cases checked : s.check with
    | error first =>
      have unsound : ¬ s.Sound := by simp [← s.check_eq_ok_iff, checked]
      simp [load_of_refused decoded parsed checked, unsound]
    | ok u =>
      have sound : s.Sound := s.check_eq_ok_iff.mp checked
      simp [load_of_sound decoded parsed sound, checked_eq_error_iff, sound]
  · have some_loaded : (∃ t, load path (.ok bs) vars = .ok t)
        ↔ s.Sound ∧ (s.overlay vars).Sound := by simp [loaded]
    rw [some_loaded]
    by_cases sound : s.Sound <;> by_cases outcome : (s.overlay vars).Sound <;>
      simp [sound, outcome]

/-- A file that asks for no pause between two looks, in an environment that sets one. -/
theorem load_characterised_noPause :
    (({ session := { pollIntervalMs := 0 } } : Settings).overlay sane).Sound
    ∧ load (Utf8.encode "phosh-itest.toml")
        (.ok (Utf8.encode "[session]\npoll_interval_ms = 0\n")) sane
      = .error (.settings (.invalid "session.poll_interval_ms"
          "poll interval must be greater than 0")) := by
  have decoded : Utf8.decode? (Utf8.encode "[session]\npoll_interval_ms = 0\n")
      = some "[session]\npoll_interval_ms = 0\n" := by decide +kernel
  have parsed : parse "[session]\npoll_interval_ms = 0\n"
      = .ok { session := { pollIntervalMs := 0 } } := by cbv
  refine ⟨sound_overlay_sane _, ((load_characterised decoded parsed).2.1 sane _).mpr (.inl ?_)⟩
  rfl

end NestedSession.Settings
