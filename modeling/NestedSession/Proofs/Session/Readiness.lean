import NestedSession.Proofs.Session.Counting
import NestedSession.Proofs.Session.Marking
import NestedSession.Proofs.Settings.Rules

/-!
# Proofs/Session/Readiness — what settings that pass their check are good for

A session asks again whether its settings make sense, and it waits for its child to become ready as
they say.  Settings that pass the check are not refused when a session is built from them
(`SessionPlan.build_ne_settings`), their marker is not there too early (`Session.check_readiness`),
and their rules about times see to it that a child is not given up after one look: there is time for
a second (`Session.two_le_limit`), and a child that is waited for in vain is waited for as long as
the settings say, to the nanosecond.
-/

namespace NestedSession

/-! ## A session is built -/

section

variable {ω : Type} [Host ω]

/-- **A session is not refused for its settings** if they make sense. -/
theorem SessionPlan.build_ne_settings {plan : SessionPlan} (sound : plan.settings.Sound) (w : ω)
    (why : SettingsFault) : (plan.build w).1 ≠ .error (.settings why) := by
  rw [build, plan.settings.check_eq_ok_iff.mpr sound]
  simp only
  split <;> simp

/-- A session is built from settings that make sense. -/
theorem SessionPlan.sound_of_build {plan : SessionPlan} {w w' : ω} {s : Session}
    (built : plan.build w = (.ok s, w')) : s.settings.Sound := by
  cases accepted : plan.settings.check with
  | error why => simp [build, accepted] at built
  | ok _ =>
    obtain ⟨-, -, rfl⟩ := of_build built
    exact s.settings.check_eq_ok_iff.mp accepted

namespace Session

/-! ## It becomes ready -/

/-- **The marker of a ready session is there too early** only if it is the empty one, where nothing
was captured yet. -/
theorem stale?_readiness {s : Session} (empty : s.capture = .empty) :
    s.readiness.stale? s.capture
      = if s.settings.readinessMarker = "" then some (.stderr, "") else none := by
  have shown (marker : String) : Capture.empty.contains .stderr marker = decide (marker = "") := by
    rw [Bool.eq_iff_iff, decide_eq_true_iff, Capture.contains, Text.contains, Text.occurs_iff]
    exact List.infix_nil.trans String.toList_eq_nil_iff
  rw [empty]
  by_cases blank : s.settings.readinessMarker = "" <;>
    simp [readiness, WaitRequest.stale?, WaitRequest.markers, shown, blank]

/-- A session that has captured nothing has its readiness still to wait for. -/
theorem check_readiness {s : Session} (sound : s.settings.Sound) (empty : s.capture = .empty) :
    s.readiness.check s.capture = .ok () := by
  rw [WaitRequest.check, stale?_readiness empty, if_neg sound.readinessMarker]

/-- **The waiting of a session to become ready**, once it has its child. -/
def readying (s : Session) (w : ω) (child : Child) : Vigil (Waited ω) :=
  (s.having child).vigil w child s.readiness

variable {s : Session} (sound : s.settings.Sound) (w : ω) (child : Child)
include sound

/-- That is what a session that was just built does. -/
theorem waitForOutput_readiness (empty : s.capture = .empty) :
    ((s.having child).waitForOutput w s.readiness).1 = (s.readying w child).outcome.1 :=
  waitForOutput_fst rfl (check_readiness sound empty)

/-- **The most looks at a child that is to become ready.** -/
theorem limit_readying :
    (s.readying w child).limit = 1 + (1000 * s.settings.startupTimeoutSecs.toNat)
      ⌈/⌉ s.settings.pollIntervalMs.toNat :=
  limit_vigil (s.settings.check_eq_ok_iff.mpr sound) rfl

/-- **There is time for a second look.** -/
theorem two_le_limit : 2 ≤ (s.readying w child).limit := by
  have pos : 0 < s.settings.pollIntervalMs.toNat :=
    pollIntervalMs_pos (s.settings.check_eq_ok_iff.mpr sound)
  have within := (Settings.pollInterval_le_iff s.settings).mp sound.pollInterval_le
  have some_sleep : ¬ (1000 * s.settings.startupTimeoutSecs.toNat)
      ⌈/⌉ s.settings.pollIntervalMs.toNat ≤ 0 := by
    rw [ceilDiv_le_iff_le_mul pos, Nat.mul_zero]
    omega
  rw [limit_readying sound]
  omega

omit sound in
/-- **A child that is waited for in vain** is looked at as often as there is time for, and that is
the whole of the startup timeout. -/
theorem counted_readying {w : ω} {child : Child} (unfailing : (s.readying w child).Unfailing)
    (vain : (s.readying w child).VainBefore ((s.readying w child).limit + 1)) :
    (s.readying w child).outcome.1 = .ok (.timedOut (.ofNat (s.readying w child).limit))
    ∧ (s.readying w child).counted.2.checks = (s.readying w child).limit
    ∧ (s.readying w child).counted.2.pumps = (s.readying w child).limit
    ∧ (s.readying w child).counted.2.slept = .ofSeconds s.settings.startupTimeoutSecs := by
  obtain ⟨x, counted⟩ := Vigil.counted_of_vain unfailing vain
  rw [Vigil.outcome_eq, counted]
  exact ⟨rfl, rfl, rfl, rfl⟩

end Session

/-- **What the check of settings passes, and what that is good for.**

* It passes settings exactly if each of the conditions named here is met; the times are compared as
  numbers, whatever their size.
* Else it reports the first of its rules that is broken, in their order.
* No session is refused that is to be built with settings that pass.  When its child is there, the
  waiting for it to become ready has time for `1 + ⌈1000 * seconds / milliseconds⌉` looks, at least
  two.
* A child that lives on and never shows the marker is looked at that often, and the sleeps add up to
  the startup timeout; then the time is over, and the number of looks is told if it has not more
  than 32 bits. -/
theorem Settings.check_suffices (s : Settings) :
    (s.check = .ok () ↔ s.general.logLevel ∈ logLevels ∧ s.general.logFormat ∈ logFormats
      ∧ (∃ c ∈ s.session.compositor.toList, Text.isBlank c = false)
      ∧ s.session.readinessMarker ≠ ""
      ∧ 1 ≤ s.session.pollIntervalMs.toNat
      ∧ s.session.pollIntervalMs.toNat ≤ 1000 * s.session.startupTimeoutSecs.toNat
      ∧ 1 ≤ s.session.shutdownTimeoutSecs.toNat
      ∧ (s.logs.save = true → s.logs.dir ≠ ""))
    ∧ (∀ why, s.check = .error why ↔ ∃ before r behind, rules = before ++ r :: behind
      ∧ (∀ e ∈ before, e.Holds s) ∧ ¬ r.Holds s ∧ why = .invalid r.field (r.reason s))
    ∧ ∀ (plan : SessionPlan) (w : ω), plan.settings = s.session → s.check = .ok () →
      (∀ why, (plan.build w).1 ≠ .error (.settings why))
      ∧ ∀ s₀ w₁ child w₂, plan.build w = (.ok s₀, w₁) → s₀.childStart w₁ = (.ok child, w₂) →
        ((s₀.having child).waitForOutput w₂ s₀.readiness).1 = (s₀.readying w₂ child).outcome.1
        ∧ (s₀.readying w₂ child).limit
          = 1 + (1000 * s.session.startupTimeoutSecs.toNat) ⌈/⌉ s.session.pollIntervalMs.toNat
        ∧ 2 ≤ (s₀.readying w₂ child).limit
        ∧ ((s₀.readying w₂ child).Unfailing →
          (s₀.readying w₂ child).VainBefore ((s₀.readying w₂ child).limit + 1) →
          (s₀.readying w₂ child).counted.2.checks = (s₀.readying w₂ child).limit
          ∧ (s₀.readying w₂ child).counted.2.pumps = (s₀.readying w₂ child).limit
          ∧ (s₀.readying w₂ child).counted.2.slept = .ofSeconds s.session.startupTimeoutSecs
          ∧ ∃ told, ((s₀.having child).waitForOutput w₂ s₀.readiness).1 = .ok (.timedOut told)
            ∧ (told.toNat = (s₀.readying w₂ child).limit
              ↔ (s₀.readying w₂ child).limit < 2 ^ 32)) := by
  refine ⟨?_, fun why => check_eq_error_iff, fun plan w same accepted => ?_⟩
  · rw [check_eq_ok_iff, sound_iff]
    simp only [rules, List.forall_mem_cons, List.not_mem_nil, false_implies, implies_true,
      and_true]
    rfl
  have sound : plan.settings.Sound := same ▸ (s.check_eq_ok_iff.mp accepted).session
  refine ⟨SessionPlan.build_ne_settings sound w, fun s₀ w₁ child w₂ built started => ?_⟩
  obtain ⟨-, empty, rfl⟩ := SessionPlan.of_build built
  have limit := Session.limit_readying sound w₂ child
  rw [Session.waitForOutput_readiness sound w₂ child empty]
  refine ⟨rfl, same ▸ limit, Session.two_le_limit sound w₂ child, fun unfailing vain => ?_⟩
  obtain ⟨ended, checks, pumps, slept⟩ := Session.counted_readying unfailing vain
  exact ⟨checks, pumps, same ▸ slept, _, ended, toNat_ofNat_eq_iff _⟩

end

/-- The default settings pass their check, and with them a child that does nothing is looked at six
times in five seconds. -/
theorem Settings.check_suffices_idle : ∃ s₀ w₁ w₂, ({} : Settings).check = .ok ()
    ∧ Session.justBuilt.toSessionPlan.build (Scripted.idle []) = (.ok s₀, w₁)
    ∧ s₀.childStart w₁ = (.ok (.fresh 7), w₂)
    ∧ ((s₀.having (.fresh 7)).waitForOutput w₂ s₀.readiness).1 = .ok (.timedOut 6)
    ∧ (s₀.readying w₂ (.fresh 7)).counted.2.checks = 6
    ∧ (s₀.readying w₂ (.fresh 7)).counted.2.slept = .ofSeconds 5 := by
  have accepted : ({} : Settings).check = .ok () := rfl
  obtain ⟨w₁, w₂, built, started, idles⟩ : ∃ w₁ w₂,
      Session.justBuilt.toSessionPlan.build (Scripted.idle []) = (.ok Session.justBuilt, w₁)
      ∧ Session.justBuilt.childStart w₁ = (.ok (.fresh 7), w₂) ∧ w₂.Idles :=
    ⟨_, _, Prod.ext (by decide +kernel) rfl, Prod.ext (by decide +kernel) rfl, by decide +kernel,
      by decide +kernel, fun s => by cases s <;> decide +kernel,
      fun s => by cases s <;> decide +kernel⟩
  obtain ⟨-, -, good⟩ := check_suffices (ω := Scripted) {}
  obtain ⟨-, readies⟩ := good Session.justBuilt.toSessionPlan (.idle []) rfl accepted
  obtain ⟨-, limit, -, vain⟩ := readies _ _ _ _ built started
  have unmet : Session.justBuilt.readiness.isMet (Session.justBuilt.having (.fresh 7)).capture
      = false := by decide +kernel
  have alive : (Child.fresh 7).exit = none := rfl
  obtain ⟨unfailing, always⟩ := Session.vain_of_idles idles alive unmet
  obtain ⟨checks, -, slept, told, ended, right⟩ := vain unfailing (always _)
  have six : (Session.justBuilt.readying w₂ (.fresh 7)).limit = 6 := limit
  rw [six] at checks right
  have number : told.toNat = 6 := right.mpr (by decide)
  obtain rfl : told = 6 := UInt32.toNat_inj.mp number
  exact ⟨_, _, _, accepted, built, started, ended, checks, slept⟩

end NestedSession
