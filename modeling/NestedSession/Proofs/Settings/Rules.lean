import NestedSession.Proofs.Settings.Validity

/-!
# Proofs/Settings/Rules — which condition the check reports

Each condition on settings is a rule (`Settings.Rule`): the setting it is about, when it holds, and
what is said if it does not.  The check goes through the rules in their order (`Settings.check_eq`).
So it reports the first that does not hold, and no other (`Settings.check_eq_error_iff`); all hold
exactly where the settings make sense (`Settings.sound_iff`).
-/

namespace NestedSession

namespace Settings

/-- A condition on settings. -/
structure Rule where
  /-- The setting that is refused. -/
  field : String
  /-- Why it is refused. -/
  reason : Settings → String
  Holds : Settings → Prop
  [decidable : DecidablePred Holds]

namespace Rule

attribute [instance] decidable

/-- The fault of settings that break a rule. -/
def fault (r : Rule) (s : Settings) : SettingsFault := .invalid r.field (r.reason s)

/-- Refuse settings that break a rule. -/
def check (s : Settings) (r : Rule) : Except SettingsFault Unit :=
  refuseIf (!decide (r.Holds s)) r.field (r.reason s)

/-- A condition of one's own refuses what the rule refuses, if it finds the same. -/
theorem refuseIf_of_iff {s : Settings} {r : Rule} {bad : Bool} (h : bad = false ↔ r.Holds s) :
    refuseIf bad r.field (r.reason s) = r.check s := by
  have same : bad = !decide (r.Holds s) := by
    rw [Bool.eq_not, Ne, Bool.eq_iff_iff]
    simp [← h]
  rw [same, check]

/-- **Checked one after the other, rules let pass** what all of them do. -/
theorem forM_check_eq_ok_iff {s : Settings} {rules : List Rule} :
    forM rules (check s) = .ok () ↔ ∀ r ∈ rules, r.Holds s := by
  induction rules with
  | nil => simp [pure, Except.pure]
  | cons r rules ih =>
    rw [List.forM_cons, check, refuseIf_bind_eq_ok_iff, ih, List.forall_mem_cons]
    simp

/-- **Checked one after the other, rules report** the first that is broken. -/
theorem forM_check_eq_error_iff {s : Settings} {rules : List Rule} {why : SettingsFault} :
    forM rules (check s) = .error why
      ↔ ∃ before r behind, rules = before ++ r :: behind ∧ (∀ e ∈ before, e.Holds s)
        ∧ ¬ r.Holds s ∧ why = r.fault s := by
  induction rules with
  | nil => simp [pure, Except.pure]
  | cons first rules ih =>
    rw [List.forM_cons, check, refuseIf_bind_eq_error_iff, ih]
    constructor
    · rintro (⟨broken, rfl⟩ | ⟨holds, before, r, behind, rfl, all, broken⟩)
      · exact ⟨[], first, rules, rfl, nofun, by simpa using broken, rfl⟩
      · exact ⟨first :: before, r, behind, rfl,
          List.forall_mem_cons.mpr ⟨by simpa using holds, all⟩, broken⟩
    · rintro ⟨_ | ⟨e, before⟩, r, behind, split, all, broken, told⟩
      · obtain ⟨rfl, rfl⟩ := List.cons.inj split
        exact .inl ⟨by simpa using broken, told⟩
      · obtain ⟨rfl, rfl⟩ := List.cons.inj split
        obtain ⟨holds, all⟩ := List.forall_mem_cons.mp all
        exact .inr ⟨by simpa using holds, before, r, behind, rfl, all, broken, told⟩

end Rule

/-! ## The rules -/

namespace Rule

def logLevel : Rule where
  field := "general.log_level"
  reason _ := oneOfReason logLevels
  Holds s := s.general.logLevel ∈ logLevels

def logFormat : Rule where
  field := "general.log_format"
  reason _ := oneOfReason logFormats
  Holds s := s.general.logFormat ∈ logFormats

/-- The compositor has a name. -/
def compositor : Rule where
  field := "session.compositor"
  reason _ := "compositor binary must not be empty"
  Holds s := ∃ c ∈ s.session.compositor.toList, Text.isBlank c = false
  -- found out as the check finds it out, and not by whichever search of lists is at hand
  decidable _ := decidable_of_iff _ Text.isBlankText_eq_false_iff

/-- An empty marker would show at once. -/
def readinessMarker : Rule where
  field := "session.readiness_marker"
  reason _ := "readiness marker must not be empty"
  Holds s := s.session.readinessMarker ≠ ""

/-- Time passes between two looks. -/
def somePause : Rule where
  field := "session.poll_interval_ms"
  reason _ := "poll interval must be greater than 0"
  Holds s := 1 ≤ s.session.pollIntervalMs.toNat

/-- What is said of a pause that is longer than the startup timeout. -/
def longPauseReason (s : SessionSettings) : String :=
  s!"poll interval ({s.pollIntervalMs}ms) exceeds startup timeout ({s.startupTimeoutSecs}s)"

/-- There is time for a second look; the times are compared as numbers. -/
def shortPause : Rule where
  field := "session.poll_interval_ms"
  reason s := longPauseReason s.session
  Holds s := s.session.pollIntervalMs.toNat ≤ 1000 * s.session.startupTimeoutSecs.toNat

/-- A child that is told to end has time to do so. -/
def shutdownTimeout : Rule where
  field := "session.shutdown_timeout_secs"
  reason _ := "shutdown timeout must be greater than 0"
  Holds s := 1 ≤ s.session.shutdownTimeoutSecs.toNat

/-- Log files that are wanted have a place to go to. -/
def logDir : Rule where
  field := "logs.dir"
  reason _ := "log directory must not be empty when saving logs"
  Holds s := s.logs.save = true → s.logs.dir ≠ ""

end Rule

/-- **The rules for settings**, in the order they are checked. -/
def rules : List Rule :=
  [.logLevel, .logFormat, .compositor, .readinessMarker, .somePause, .shortPause, .shutdownTimeout,
    .logDir]

/-- An interval is not longer than a timeout exactly if it has not more milliseconds. -/
theorem pollInterval_le_iff (s : SessionSettings) :
    s.pollInterval ≤ s.startupTimeout
      ↔ s.pollIntervalMs.toNat ≤ 1000 * s.startupTimeoutSecs.toNat := by
  have key (a b : Nat) : a * 1000000 ≤ b * 1000000000 ↔ a ≤ 1000 * b := by omega
  exact key _ _

/-- A count is not zero exactly if it is one at least. -/
theorem one_le_toNat_iff {n : UInt64} : 1 ≤ n.toNat ↔ n ≠ 0 := by
  rw [Nat.one_le_iff_ne_zero, Ne, Ne, ← UInt64.toNat_inj]
  rfl

/-- **The check goes through the rules.** -/
theorem check_eq (s : Settings) : s.check = forM rules (Rule.check s) := by
  have level : (!logLevels.contains s.general.logLevel) = false ↔ Rule.logLevel.Holds s := by
    simp [Rule.logLevel]
  have format : (!logFormats.contains s.general.logFormat) = false ↔ Rule.logFormat.Holds s := by
    simp [Rule.logFormat]
  have zero (n : UInt64) : (n == 0) = false ↔ 1 ≤ n.toNat := by simp [one_le_toNat_iff]
  have long : decide (s.session.pollInterval > s.session.startupTimeout) = false
      ↔ Rule.shortPause.Holds s := by
    rw [decide_eq_false_iff_not, gt_iff_lt, Nat.not_lt]
    exact pollInterval_le_iff s.session
  have logs : (s.logs.save && s.logs.dir.isEmpty) = false ↔ Rule.logDir.Holds s := by
    simp [Rule.logDir]
  -- behind the last rule there is nothing more to check
  have last (x : Except SettingsFault Unit) : (x >>= fun _ => pure ()) = x := by cases x <;> rfl
  change s.check = (do
    Rule.logLevel.check s
    Rule.logFormat.check s
    Rule.compositor.check s
    Rule.readinessMarker.check s
    Rule.somePause.check s
    Rule.shortPause.check s
    Rule.shutdownTimeout.check s
    Rule.logDir.check s
    pure ())
  simp only [last, ← Rule.refuseIf_of_iff level, ← Rule.refuseIf_of_iff format,
    ← Rule.compositor.refuseIf_of_iff Text.isBlankText_eq_false_iff,
    ← Rule.readinessMarker.refuseIf_of_iff String.isEmpty_eq_false_iff,
    ← Rule.somePause.refuseIf_of_iff (zero _), ← Rule.refuseIf_of_iff long,
    ← Rule.shutdownTimeout.refuseIf_of_iff (zero _), ← Rule.refuseIf_of_iff logs]
  simp only [check, SessionSettings.check, bind_assoc]
  rfl

/-- **Settings make sense** exactly if they keep all rules. -/
theorem sound_iff {s : Settings} : s.Sound ↔ ∀ r ∈ rules, r.Holds s := by
  rw [← s.check_eq_ok_iff, check_eq, Rule.forM_check_eq_ok_iff]

/-- **The check reports the first rule that is broken**, and no other. -/
theorem check_eq_error_iff {s : Settings} {why : SettingsFault} :
    s.check = .error why ↔ ∃ before r behind, rules = before ++ r :: behind
      ∧ (∀ e ∈ before, e.Holds s) ∧ ¬ r.Holds s ∧ why = r.fault s := by
  rw [check_eq, Rule.forM_check_eq_error_iff]

end Settings

end NestedSession
