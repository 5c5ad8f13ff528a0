import NestedSession.Settings.Validity

/-!
# Proofs/Settings/Validity — which settings pass their check

A check tries its conditions one after the other and stops at the first that fails
(`refuseIf_bind_eq_ok_iff`).  So it passes exactly the settings that meet them all, and these are
named here one by one (`SessionSettings.Sound`, `Settings.Sound`): what makes sense is said without
the check, and `Settings.check_eq_ok_iff` joins the two.
-/

namespace NestedSession

/-! ## One condition, and those behind it -/

theorem refuseIf_eq_ok_iff {bad : Bool} {field reason : String} :
    refuseIf bad field reason = .ok () ↔ bad = false := by
  cases bad <;> simp [refuseIf]

theorem refuseIf_bind_eq_ok_iff {bad : Bool} {field reason : String}
    {next : Unit → Except SettingsFault Unit} :
    (refuseIf bad field reason >>= next) = .ok () ↔ bad = false ∧ next () = .ok () := by
  cases bad <;> simp [refuseIf, bind, Except.bind]

/-- The first condition that fails is the one that is told. -/
theorem refuseIf_bind_eq_error_iff {bad : Bool} {field reason : String}
    {next : Unit → Except SettingsFault Unit} {why : SettingsFault} :
    (refuseIf bad field reason >>= next) = .error why
      ↔ bad = true ∧ why = .invalid field reason ∨ bad = false ∧ next () = .error why := by
  cases bad <;> simp [refuseIf, bind, Except.bind, eq_comm]

theorem refuseIf_eq_error_iff {bad : Bool} {field reason : String} {why : SettingsFault} :
    refuseIf bad field reason = .error why ↔ bad = true ∧ why = .invalid field reason := by
  cases bad <;> simp [refuseIf, eq_comm]

/-! ## A session -/

/-- **Settings of a session that make sense.** -/
structure SessionSettings.Sound (s : SessionSettings) : Prop where
  /-- The compositor has a name. -/
  compositor : ∃ c ∈ s.compositor.toList, Text.isBlank c = false
  /-- An empty marker would show at once. -/
  readinessMarker : s.readinessMarker ≠ ""
  /-- Time passes between two looks. -/
  pollInterval_pos : s.pollIntervalMs ≠ 0
  /-- There is time for a second look before the startup timeout. -/
  pollInterval_le : s.pollInterval ≤ s.startupTimeout
  /-- A child that is told to end has time to do so. -/
  shutdownTimeout_pos : s.shutdownTimeoutSecs ≠ 0

/-- A text is not blank if some character of it is not. -/
theorem Text.isBlankText_eq_false_iff {text : String} :
    Text.isBlankText text = false ↔ ∃ c ∈ text.toList, Text.isBlank c = false := by
  simp [Text.isBlankText]

/-- **The check of a session passes exactly what makes sense.** -/
theorem SessionSettings.check_eq_ok_iff (s : SessionSettings) : s.check = .ok () ↔ s.Sound := by
  simp only [check, refuseIf_bind_eq_ok_iff, refuseIf_eq_ok_iff, Text.isBlankText_eq_false_iff,
    String.isEmpty_eq_false_iff, beq_eq_false_iff_ne, decide_eq_false_iff_not, gt_iff_lt,
    Nat.not_lt]
  exact ⟨fun ⟨compositor, marker, interval, timeout, shutdown⟩ =>
      ⟨compositor, marker, interval, timeout, shutdown⟩,
    fun ⟨compositor, marker, interval, timeout, shutdown⟩ =>
      ⟨compositor, marker, interval, timeout, shutdown⟩⟩

/-! ## All settings -/

/-- **Settings that make sense.** -/
structure Settings.Sound (s : Settings) : Prop where
  logLevel : s.general.logLevel ∈ logLevels
  logFormat : s.general.logFormat ∈ logFormats
  session : s.session.Sound
  /-- Log files that are wanted have a place to go to. -/
  logs : s.logs.save = true → s.logs.dir ≠ ""

/-- **The check passes exactly what makes sense.** -/
theorem Settings.check_eq_ok_iff (s : Settings) : s.check = .ok () ↔ s.Sound := by
  have session (next : Except SettingsFault Unit) :
      (s.session.check >>= fun _ => next) = .ok () ↔ s.session.Sound ∧ next = .ok () := by
    rw [← s.session.check_eq_ok_iff]
    cases s.session.check <;> simp [bind, Except.bind]
  simp only [check, refuseIf_bind_eq_ok_iff, refuseIf_eq_ok_iff, session, Bool.not_eq_false',
    List.contains_iff_mem, Bool.and_eq_false_imp, String.isEmpty_eq_false_iff]
  exact ⟨fun ⟨level, format, session, logs⟩ => ⟨level, format, session, logs⟩,
    fun ⟨level, format, session, logs⟩ => ⟨level, format, session, logs⟩⟩

end NestedSession
