import NestedSession.Proofs.CommandLine.InForce
import NestedSession.Proofs.CommandLine.Shown
import NestedSession.Proofs.Settings.Rules

/-!
# Proofs/CommandLine/Validating — settings without a file

Settings are loaded from a file if there is one, and else from the defaults; the two ways check and
report apart from each other.  They come to the same: without a file there is nothing to load but
what an empty file gives (`Settings.load_empty`, `Settings.effective_of_isMissing`).  Validating
goes the first way only, so it passes a file exactly if its settings can be loaded, and insists on
there being one.
-/

namespace NestedSession

namespace Settings

/-- There is no file: reading it has failed, and not for anything else. -/
def IsMissing (content : Except Fault Octets) : Prop :=
  ∃ fault, content = .error fault ∧ fault.isNotFound = true

/-- **Settings make sense**, or one of them is named that does not. -/
theorem checked_cases (s : Settings) :
    s.Sound ∧ s.checked = .ok s ∨ ∃ field reason, s.check = .error (.invalid field reason)
      ∧ s.checked = .error (.settings (.invalid field reason)) := by
  rcases checked : s.check with why | u
  · obtain ⟨-, r, -, -, -, -, rfl⟩ := check_eq_error_iff.mp checked
    exact .inr ⟨r.field, r.reason s, rfl, checked_eq_error_iff.mpr checked⟩
  · have sound : s.Sound := s.check_eq_ok_iff.mp checked
    exact .inl ⟨sound, checked_eq_ok_iff.mpr ⟨rfl, sound⟩⟩

section

variable {path : Path} {content : Except Fault Octets} {vars : Variables}

/-! ## There is no file -/

theorem load_of_isMissing (missing : IsMissing content) :
    load path content vars = .error (.settings (.missing path.shown)) := by
  obtain ⟨fault, rfl, absent⟩ := missing
  rw [load, ofFile]
  simp only [absent, if_true]

/-- **Without a file**, the settings are the defaults under the environment. -/
theorem effective_of_isMissing (missing : IsMissing content) :
    effective path content vars = (({} : Settings).overlay vars).checked.mapError .shared := by
  rw [effective, load_of_isMissing missing]
  cases (({} : Settings).overlay vars).checked <;> rfl

/-! ## There is a file -/

/-- What a file says may be unreadable, but it is not missing. -/
theorem parse_ne_missing (source p : String) : parse source ≠ .error (.missing p) := by
  rw [parse]
  simp only [Except.mapError]
  split <;> simp

/-- A check refuses settings for what they are. -/
theorem checked_ne_missing (s : Settings) (p : String) :
    s.checked ≠ .error (.settings (.missing p)) := by
  rcases s.checked_cases with ⟨-, passed⟩ | ⟨_, _, -, refused⟩
  · simp [passed]
  · simp [refused]

theorem ofFile_ne_missing (there : ¬ IsMissing content) (p : String) :
    ofFile path content ≠ .error (.settings (.missing p)) := by
  cases content with
  | error fault =>
    have present : ¬ fault.isNotFound = true := fun absent => there ⟨fault, rfl, absent⟩
    simp [ofFile, present]
  | ok bs =>
    rw [ofFile]
    split
    · simp
    · next text _ =>
      split
      · next why unreadable =>
        rintro ⟨⟩
        exact parse_ne_missing text p unreadable
      · exact checked_ne_missing _ p

variable (path vars) in
/-- **A file that is there is not reported as missing.** -/
theorem load_ne_missing (there : ¬ IsMissing content) (p : String) :
    load path content vars ≠ .error (.settings (.missing p)) := by
  rw [load]
  split
  · next failed => exact failed ▸ ofFile_ne_missing there p
  · exact checked_ne_missing _ p

/-- **With a file**, the settings are what it gives. -/
theorem effective_of_there (there : ¬ IsMissing content) :
    effective path content vars
      = (load path content vars).mapError fun fault => .settings fault.text := by
  have present := load_ne_missing path vars there
  rw [effective]
  split
  · next loaded => rw [loaded]; rfl
  · next p failed => exact absurd failed (present p)
  · next failed => rw [failed]; rfl

/-- **An empty file** gives the defaults under the environment. -/
theorem load_empty : load path (.ok []) vars = (({} : Settings).overlay vars).checked := by
  have decoded : Utf8.decode? [] = some "" := by decide +kernel
  have parsed : parse "" = .ok {} := by cbv
  exact load_of_sound decoded parsed ((check_eq_ok_iff _).mp rfl) vars

/-- **Without a file it is as with an empty one**: the same settings are in force, or the same
setting is refused. -/
theorem effective_of_isMissing_cases (missing : IsMissing content) (path' : Path) :
    (({} : Settings).overlay vars).Sound
      ∧ effective path content vars = .ok (({} : Settings).overlay vars)
      ∧ effective path' (.ok []) vars = .ok (({} : Settings).overlay vars)
    ∨ ∃ field reason, (({} : Settings).overlay vars).check = .error (.invalid field reason)
      ∧ effective path content vars = .error (.shared (.settings (.invalid field reason)))
      ∧ effective path' (.ok []) vars
        = .error (.settings (SharedFault.settings (.invalid field reason)).text) := by
  have there : ¬ IsMissing (.ok []) := nofun
  rw [effective_of_isMissing missing, effective_of_there there, load_empty]
  rcases (({} : Settings).overlay vars).checked_cases with
    ⟨sound, passed⟩ | ⟨field, reason, why, refused⟩
  · rw [passed]
    exact .inl ⟨sound, rfl, rfl⟩
  · rw [refused]
    exact .inr ⟨field, reason, why, rfl, rfl⟩

/-- With a file, there are settings in force exactly if they can be loaded from it. -/
theorem exists_effective_iff (there : ¬ IsMissing content) :
    (∃ s, effective path content vars = .ok s) ↔ ∃ s, load path content vars = .ok s := by
  rw [effective_of_there there]
  cases load path content vars <;> simp [Except.mapError]

end

end Settings

/-! ## Validating -/

/-- **What validating comes to**: a report about the file, and the code that goes with it. -/
theorem validateSettings_cases (path : Path) (content : Except Fault Octets) (vars : Variables)
    (format : OutputFormat) (colours : Bool) :
    ∃ report : ValidityReport, report.source = path.shown
      ∧ report.fault = (match Settings.load path content vars with
        | .ok _ => none
        | .error fault => some fault.text)
      ∧ (validateSettings path content vars format colours).shown = report.render format colours
      ∧ (validateSettings path content vars format colours).exitCode
        = if report.fault = none then 0 else 2 := by
  rw [validateSettings]
  cases Settings.load path content vars with
  | ok s => exact ⟨⟨path.shown, none⟩, rfl, rfl, rfl, rfl⟩
  | error fault => exact ⟨⟨path.shown, some fault.text⟩, rfl, rfl, rfl, rfl⟩

/-- The program validates settings under the defaults for its own log. -/
theorem ProgramRequest.perform_validate {ω : Type} [Host ω] {q : ProgramRequest}
    (asked : q.command = .validateSettings) (vars : Variables) (colours : Bool) (patience : ℕ)
    (w : ω) : q.perform vars colours patience w
      = some (validateSettings q.settings (Disk.content w q.settings) vars q.output colours, w) := by
  have sound : ({} : Settings).Sound := (Settings.check_eq_ok_iff _).mp rfl
  have log : ({} : GeneralSettings).startLog q.logLevel = .ok () := sound.startLog q.logLevel
  simp only [perform, asked, log]

/-- **A missing file, an empty one, and what validating says of a file**, whatever the paths and the
environment.

* With a missing file and with an empty one the same settings are in force, the defaults under the
  environment.  Where these do not pass their check, the same setting is refused with both, for the
  same reason; either fault ends a command with the code 2, and they differ in the first words of
  their texts only.
* Validating always comes to its end, changes nothing, and reports on the file that was asked for:
  with the code 0 if it has no fault to tell, and else with the code 2.  What it shows tells that
  the settings are valid exactly if it has none, and that they are invalid exactly if it has one.
* Of a file that is there it has no fault to tell exactly if settings are in force with it; of one
  that is missing it tells that. -/
theorem Settings.missing_as_empty {ω : Type} [Host ω] :
    (∀ path path' content vars, IsMissing content →
      (({} : Settings).overlay vars).Sound
        ∧ effective path content vars = .ok (({} : Settings).overlay vars)
        ∧ effective path' (.ok []) vars = .ok (({} : Settings).overlay vars)
      ∨ ∃ field reason missing empty,
        (({} : Settings).overlay vars).check = .error (.invalid field reason)
        ∧ effective path content vars = .error missing
        ∧ effective path' (.ok []) vars = .error empty
        ∧ missing = .shared (.settings (.invalid field reason))
        ∧ empty.text = "configuration error: " ++ missing.text
        ∧ missing.exitCode = 2 ∧ empty.exitCode = 2)
    ∧ ∀ (q : ProgramRequest) vars colours patience (w : ω), q.command = .validateSettings →
      ∃ (o : CommandOutcome) (report : ValidityReport),
        q.perform vars colours patience w = some (o, w)
        ∧ o.shown = report.render q.output colours ∧ report.source = q.settings.shown
        ∧ o.exitCode = (if report.fault = none then 0 else 2)
        ∧ (∀ valid, ValidityReport.Tells q.settings.shown valid colours o.shown q.output
          ↔ valid = report.fault.isNone)
        ∧ (¬ IsMissing (Disk.content w q.settings) → (report.fault = none
          ↔ ∃ s, effective q.settings (Disk.content w q.settings) vars = .ok s))
        ∧ (IsMissing (Disk.content w q.settings) → report.fault
          = some ("config error: config file not found: " ++ q.settings.shown)) := by
  refine ⟨fun path path' content vars missing => ?_, fun q vars colours patience w asked => ?_⟩
  · refine (effective_of_isMissing_cases missing path').imp_right ?_
    rintro ⟨field, reason, refused, absent, empty⟩
    exact ⟨field, reason, _, _, refused, absent, empty, rfl, rfl, rfl, rfl⟩
  · obtain ⟨report, source, told, shown, code⟩ := validateSettings_cases q.settings
      (Disk.content w q.settings) vars q.output colours
    refine ⟨_, report, q.perform_validate asked vars colours patience w, shown, source, code,
      fun valid => ?_, fun there => ?_, fun missing => ?_⟩
    · rw [shown, ← source]
      exact report.tells_iff valid colours q.output
    · rw [exists_effective_iff there, told]
      cases load q.settings (Disk.content w q.settings) vars <;> simp
    · rw [told, load_of_isMissing missing]
      rfl

/-- An environment that asks for no pause between two looks. -/
def Variables.pauseless : Variables :=
  .ofList [(Utf8.encode (settingVariable "SESSION" "POLL_INTERVAL_MS"), Utf8.encode "0")]

/-- What the command line of a validation asks for. -/
def ProgramRequest.validating : ProgramRequest where
  settings := Utf8.encode "phosh-itest.toml"
  logLevel := none
  output := .text
  command := .validateSettings

/-- What validating shows to a person where there is no file. -/
def Scripted.missingText : String :=
  "Config Validation: phosh-itest.toml\n  Result: INVALID\n"
    ++ "  Error: config error: config file not found: phosh-itest.toml\n"

/-- What validating shows to a program there. -/
def Scripted.missingJson : String :=
  "\x7b\n  \"source\": \"phosh-itest.toml\",\n  \"valid\": false,\n  \"errors\": [\n"
    ++ "    \"config error: config file not found: phosh-itest.toml\"\n  ]\n\x7d\n"

/-- In that environment an empty file and a missing one are refused for that setting; and where
there is no file, validating ends with the code 2 and says why. -/
theorem Settings.missing_as_empty_pauseless : ∃ missing empty,
    effective (Utf8.encode "a") (.error (.os .noEntry)) .pauseless = .error missing
    ∧ effective (Utf8.encode "b") (.ok []) .pauseless = .error empty
    ∧ missing.text = "config error: invalid config value for 'session.poll_interval_ms': "
      ++ "poll interval must be greater than 0"
    ∧ empty.text = "configuration error: " ++ missing.text
    ∧ missing.exitCode = 2 ∧ empty.exitCode = 2
    ∧ (∃ o, ProgramRequest.validating.perform .empty false 0 (Scripted.idle [])
        = some (o, Scripted.idle [])
      ∧ o.exitCode = 2 ∧ o.shown = Scripted.missingText)
    ∧ ∃ o, ({ ProgramRequest.validating with output := .json } : ProgramRequest).perform .empty
        false 0 (Scripted.idle []) = some (o, Scripted.idle [])
      ∧ o.exitCode = 2 ∧ o.shown = Scripted.missingJson := by
  obtain ⟨alike, validated⟩ := missing_as_empty (ω := Scripted)
  have absent : IsMissing (.error (.os .noEntry)) := ⟨_, rfl, rfl⟩
  have refused : (({} : Settings).overlay .pauseless).check
      = .error (.invalid "session.poll_interval_ms" "poll interval must be greater than 0") := by
    decide +kernel
  have content : Disk.content (Scripted.idle []) (Utf8.encode "phosh-itest.toml")
      = .error (.os .noEntry) := by decide +kernel
  have report (q : ProgramRequest) (asked : q.command = .validateSettings)
      (named : q.settings = Utf8.encode "phosh-itest.toml") :
      ∃ o, q.perform .empty false 0 (Scripted.idle []) = some (o, Scripted.idle [])
        ∧ o.exitCode = 2 ∧ o.shown = ValidityReport.render
          ⟨q.settings.shown, some ("config error: config file not found: " ++ q.settings.shown)⟩
          q.output false := by
    obtain ⟨o, ⟨source, fault⟩, performed, shown, rfl, code, -, -, told⟩ :=
      validated q .empty false 0 (Scripted.idle []) asked
    obtain rfl := told (by rw [named, content]; exact absent)
    exact ⟨o, performed, code, shown⟩
  obtain ⟨o, performed, code, shown⟩ := report .validating rfl rfl
  obtain ⟨o', performed', code', shown'⟩ :=
    report { ProgramRequest.validating with output := .json } rfl rfl
  rcases alike (Utf8.encode "a") (Utf8.encode "b") _ .pauseless absent with
    ⟨sound, -⟩ | ⟨field, reason, missing, empty, why, first, second, same, text, codes⟩
  · nomatch ((check_eq_ok_iff _).mpr sound).symm.trans refused
  obtain ⟨rfl, rfl⟩ : field = _ ∧ reason = _ := by simpa [refused] using why.symm
  refine ⟨missing, empty, first, second, ?_, text, codes.1, codes.2,
    ⟨o, performed, code, shown.trans (by decide +kernel)⟩,
    o', performed', code', shown'.trans (by decide +kernel)⟩
  rw [same]
  rfl

end NestedSession
