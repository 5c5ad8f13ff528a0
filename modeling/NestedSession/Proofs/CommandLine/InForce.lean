import NestedSession.CommandLine.Program
import NestedSession.Proofs.Session.Marking
import NestedSession.Proofs.Settings.Loading
import NestedSession.Proofs.System.Scripted

/-!
# Proofs/CommandLine/InForce — what a run takes for its settings

A run loads settings that pass their check (`Settings.sound_of_effective`), and then puts what its
command line says in the place of two of them (`ProgramRequest.inForce`): the level of its own log,
and whether log files are wanted.  Neither is checked again.  So what is in force passes the check
exactly if the level that is asked for is one of them, and log files that are asked for have a place
to go to (`ProgramRequest.check_inForce`).
-/

namespace NestedSession

/-! ## The settings that are loaded -/

/-- **Settings that were loaded make sense**, whatever the file and the environment. -/
theorem Settings.sound_of_effective {path : Path} {content : Except Fault Octets}
    {vars : Variables} {s : Settings} (loaded : effective path content vars = .ok s) : s.Sound := by
  rw [effective] at loaded
  split at loaded
  · next from_file =>
    cases loaded
    rw [load] at from_file
    split at from_file
    · cases from_file
    · obtain ⟨rfl, sound⟩ := checked_eq_ok_iff.mp from_file
      exact sound
  · split at loaded
    · next from_defaults =>
      cases loaded
      obtain ⟨rfl, sound⟩ := checked_eq_ok_iff.mp from_defaults
      exact sound
    · cases loaded
  · cases loaded

/-- The log of the program itself can be set up under settings that make sense. -/
theorem Settings.Sound.startLog {s : Settings} (sound : s.Sound) (level : Option String) :
    s.general.startLog level = .ok () := by
  have known : s.general.logFormat = "json" ∨ s.general.logFormat = "pretty" := by
    simpa [logFormats] using sound.logFormat
  rcases known with json | pretty
  · simp [GeneralSettings.startLog, startLogging, json]
  · simp [GeneralSettings.startLog, startLogging, pretty]

namespace ProgramRequest

/-! ## What the command line puts in their place -/

/-- **The settings in force for a run**: those that were loaded, but for the level and the wish for
log files that the command line asks for. -/
def inForce (q : ProgramRequest) (r : RunRequest) (s : Settings) : Settings where
  general := { s.general with logLevel := q.logLevel.getD s.general.logLevel }
  session := s.session
  logs := r.logSettings s.logs

variable (q : ProgramRequest) (r : RunRequest)

/-- **The check of what is in force** comes down to what the command line asks for. -/
theorem check_inForce {s : Settings} (sound : s.Sound) :
    (q.inForce r s).check = (do
      refuseIf (q.logLevel.any fun level => !logLevels.contains level) "general.log_level"
        (oneOfReason logLevels)
      refuseIf (r.saveLogs && s.logs.dir.isEmpty) "logs.dir"
        "log directory must not be empty when saving logs") := by
  have level : (!logLevels.contains (q.inForce r s).general.logLevel)
      = q.logLevel.any fun level => !logLevels.contains level := by
    cases asked : q.logLevel with
    | none => simp [inForce, asked, sound.logLevel]
    | some level => simp [inForce, asked]
  have format : (!logFormats.contains (q.inForce r s).general.logFormat) = false := by
    simp [inForce, sound.logFormat]
  have session : (q.inForce r s).session.check = .ok () :=
    s.session.check_eq_ok_iff.mpr sound.session
  have logs : ((q.inForce r s).logs.save && (q.inForce r s).logs.dir.isEmpty)
      = (r.saveLogs && s.logs.dir.isEmpty) := by
    cases saved : s.logs.save with
    | false => simp [inForce, RunRequest.logSettings, saved]
    | true =>
      -- the settings that were loaded want log files already, and so have a place for them
      simp [inForce, RunRequest.logSettings, saved, sound.logs saved]
  rw [Settings.check, level, format, session, logs]
  rfl

/-- What is in force makes sense exactly if what the command line asks for does. -/
theorem sound_inForce_iff {s : Settings} (sound : s.Sound) :
    (q.inForce r s).Sound
      ↔ (∀ level ∈ q.logLevel, level ∈ logLevels) ∧ (r.saveLogs = true → s.logs.dir ≠ "") := by
  rw [← Settings.check_eq_ok_iff, check_inForce q r sound, refuseIf_bind_eq_ok_iff,
    refuseIf_eq_ok_iff]
  cases q.logLevel <;> simp

/-- **What is in force is refused** for a level that is not one of them, or else for log files that
have no place to go to. -/
theorem check_inForce_eq_error_iff {s : Settings} (sound : s.Sound) {why : SettingsFault} :
    (q.inForce r s).check = .error why
      ↔ (∃ level ∈ q.logLevel, level ∉ logLevels)
          ∧ why = .invalid "general.log_level" (oneOfReason logLevels)
        ∨ (∀ level ∈ q.logLevel, level ∈ logLevels) ∧ (r.saveLogs = true ∧ s.logs.dir = "")
          ∧ why = .invalid "logs.dir" "log directory must not be empty when saving logs" := by
  rw [check_inForce q r sound, refuseIf_bind_eq_error_iff, refuseIf_eq_error_iff]
  cases q.logLevel <;> simp

end ProgramRequest

/-! ## An environment in which log files have no place to go to -/

/-- An environment that names no directory for log files. -/
def Variables.placeless : Variables := .ofList [(Utf8.encode (settingVariable "LOGS" "DIR"), [])]

/-- Without a file, the settings in it are the defaults but for that directory. -/
theorem Settings.effective_placeless (path : Path) :
    effective path (.error (.os .noEntry)) .placeless = .ok { logs := { dir := "" } } := by
  have overlaid : ({} : Settings).overlay .placeless = { logs := { dir := "" } } := by
    decide +kernel
  have sound : ({ logs := { dir := "" } } : Settings).checked = .ok { logs := { dir := "" } } := rfl
  have missing : load path (.error (.os .noEntry)) .placeless
      = .error (.settings (.missing path.shown)) := rfl
  simp only [effective, missing, overlaid, sound]

/-- **A command line that cannot break the settings** is one that asks for no log files, and for a
known level if for any. -/
theorem ProgramRequest.sound_inForce_forall_iff (q : ProgramRequest) (r : RunRequest) :
    (∀ content vars s, Settings.effective q.settings content vars = .ok s → (q.inForce r s).Sound)
      ↔ (∀ level ∈ q.logLevel, level ∈ logLevels) ∧ r.saveLogs = false := by
  constructor
  · intro always
    have placeless := Settings.effective_placeless q.settings
    obtain ⟨level, place⟩ := (sound_inForce_iff q r (Settings.sound_of_effective placeless)).mp
      (always _ _ _ placeless)
    exact ⟨level, Bool.eq_false_iff.mpr fun saved => place saved rfl⟩
  · rintro ⟨level, unsaved⟩ content vars s loaded
    refine (sound_inForce_iff q r (Settings.sound_of_effective loaded)).mpr ⟨level, fun saved => ?_⟩
    nomatch unsaved.symm.trans saved

/-- **What a run takes for its settings**, whatever the file, the environment and the command line.

* If the settings cannot be loaded, the run ends with that fault, and nothing is touched.
* Else they pass their check, nothing else is in the way of the run, and the program's own log and
  the session are set up with the settings in force (`ProgramRequest.inForce`).
* Those pass the check exactly if the command line asks for a known level, if for any, and, if it
  asks for log files, they have a place to go to; else it is the level that would be refused, and
  then the directory.  The run goes on in either case.
* So whatever the file and the environment, what is in force passes the check, exactly with those
  command lines that ask for no log files, and for a known level if for any. -/
theorem ProgramRequest.perform_inForce {ω : Type} [Host ω] {q : ProgramRequest} {r : RunRequest}
    (asked : q.command = .run r) (vars : Variables) (colours : Bool) (patience : ℕ) (w : ω) :
    (∀ fault, Settings.effective q.settings (Disk.content w q.settings) vars = .error fault →
      q.perform vars colours patience w = some (.failure fault, w))
    ∧ (∀ s, Settings.effective q.settings (Disk.content w q.settings) vars = .ok s →
      s.check = .ok ()
      ∧ q.perform vars colours patience w = runSession r s vars q.output colours patience w
      ∧ s.general.startLog q.logLevel = (q.inForce r s).general.startLog none
      ∧ (∀ (session : Session) (w₁ w₂ : ω), (r.plan s vars).build w₁ = (.ok session, w₂) →
        session.settings = (q.inForce r s).session ∧ session.logs = (q.inForce r s).logs)
      ∧ ((q.inForce r s).check = .ok () ↔ (∀ level ∈ q.logLevel, level ∈ logLevels)
        ∧ (r.saveLogs = true → s.logs.dir ≠ ""))
      ∧ ∀ why, (q.inForce r s).check = .error why
        ↔ (∃ level ∈ q.logLevel, level ∉ logLevels)
            ∧ why = .invalid "general.log_level" (oneOfReason logLevels)
          ∨ (∀ level ∈ q.logLevel, level ∈ logLevels) ∧ (r.saveLogs = true ∧ s.logs.dir = "")
            ∧ why = .invalid "logs.dir" "log directory must not be empty when saving logs")
    ∧ ((∀ content ambient s, Settings.effective q.settings content ambient = .ok s →
        (q.inForce r s).check = .ok ())
      ↔ (∀ level ∈ q.logLevel, level ∈ logLevels) ∧ r.saveLogs = false) := by
  refine ⟨fun fault failed => ?_, fun s loaded => ?_, ?_⟩
  · simp only [perform, asked, failed]
  · have sound : s.Sound := Settings.sound_of_effective loaded
    refine ⟨s.check_eq_ok_iff.mpr sound, ?_, rfl, fun session w₁ w₂ built => ?_,
      (Settings.check_eq_ok_iff _).trans (sound_inForce_iff q r sound),
      fun why => check_inForce_eq_error_iff q r sound⟩
    · simp only [perform, asked, loaded, sound.startLog]
    · obtain ⟨-, -, same⟩ := SessionPlan.of_build built
      exact ⟨congrArg (·.settings) same, congrArg (·.logs) same⟩
  · simp only [Settings.check_eq_ok_iff]
    exact sound_inForce_forall_iff q r

/-- A command line that asks for log files. -/
def ProgramRequest.savingWords : List Octets :=
  ["phosh-itest", "run", "--source-dir", "src", "--build-dir", "build", "--save-logs"].map
    Utf8.encode

/-- What such a run is to do. -/
def RunRequest.saving : RunRequest where
  sourceDir := Utf8.encode "src"
  buildDir := Utf8.encode "build"
  saveLogs := true

/-- What its command line asks for. -/
def ProgramRequest.saving : ProgramRequest where
  settings := Utf8.encode "phosh-itest.toml"
  logLevel := none
  output := .text
  command := .run .saving

/-- A process that becomes ready and ends. -/
def Scripted.brief : Scripted :=
  idle [[.write .stderr (Utf8.encode "Phosh ready after 1s\n")], [], [], [.exit 0 []]]

/-- Its run passes, though what is in force would be refused. -/
theorem ProgramRequest.perform_inForce_placeless :
    (ofWords savingWords .placeless).toOption = some saving
    ∧ (saving.inForce .saving { logs := { dir := "" } }).check
      = .error (.invalid "logs.dir" "log directory must not be empty when saving logs")
    ∧ ∃ o w', saving.perform .placeless false 0 Scripted.brief = some (o, w') ∧ o.exitCode = 0 := by
  have loaded := Settings.effective_placeless saving.settings
  obtain ⟨-, inForce, -⟩ := perform_inForce (q := saving) (r := .saving) rfl .placeless false 0
    Scripted.brief
  obtain ⟨-, -, -, -, -, refused⟩ := inForce _ loaded
  have run : (saving.perform .placeless false 0 Scripted.brief).map (fun x => x.1.exitCode)
      = some 0 := by decide +kernel
  obtain ⟨⟨o, w'⟩, performed, code⟩ := Option.map_eq_some_iff.mp run
  exact ⟨by decide +kernel, (refused _).mpr (.inr ⟨nofun, ⟨rfl, rfl⟩, rfl⟩), o, w', performed,
    code⟩

end NestedSession
