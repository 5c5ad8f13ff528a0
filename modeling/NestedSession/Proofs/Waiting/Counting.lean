import NestedSession.Proofs.Waiting.Polling

/-!
# Proofs/Waiting/Counting — the number of looks that a waiting tells

A waiting that is satisfied, or whose time is over, tells after how many looks at the output
(`WaitOutcome.polls?`).  It counts them in a word of 32 bits, and nothing keeps that word from
running over: what is told is the number of looks modulo `2 ^ 32`, whatever the source is and
whatever fails (`Vigil.polls_eq`).  The timeout allows so many looks exactly if it is longer than
`2 ^ 32 - 2` steps (`Vigil.limit_lt_iff`), and a source that is looked at in vain uses them all up
(`Vigil.counted_of_vain`).
-/

namespace NestedSession

variable {σ : Type}

/-- The number of looks at the output that an outcome tells, if it tells one. -/
def WaitOutcome.polls? : WaitOutcome → Option UInt32
  | satisfied polls | timedOut polls => some polls
  | exited _ => none

/-- **A word of 32 bits is the number it was made of** exactly if that is short. -/
theorem toNat_ofNat_eq_iff (n : ℕ) : (UInt32.ofNat n).toNat = n ↔ n < 2 ^ 32 := by
  rw [UInt32.toNat_ofNat', Nat.mod_eq_iff_lt (by decide)]

/-- One step less is one less of those that a span takes. -/
theorem ceilDiv_sub_min {span step : ℕ} (pos : 0 < step) (more : span ≠ 0) :
    (span - min step span) ⌈/⌉ step + 1 ≤ span ⌈/⌉ step := by
  obtain ⟨q, quotient⟩ : ∃ q, span ⌈/⌉ step = q := ⟨_, rfl⟩
  have covered : span ≤ step * q := (ceilDiv_le_iff_le_mul pos).mp quotient.le
  cases q with
  | zero => omega
  | succ q =>
    rw [quotient, Nat.add_le_add_iff_right, ceilDiv_le_iff_le_mul pos]
    rw [Nat.mul_succ] at covered
    omega

/-- **What a waiting tells is what was read**, if that is how its count began: every look but the
last is followed by a sleep, and the time allows no more of them. -/
theorem pollUntil_polls (src : Source σ) (request : WaitRequest) (interval remaining : Span)
    {polls : UInt32} {m m' : Metered σ} (counted : polls = .ofNat m.pumps) {outcome : WaitOutcome}
    {told : UInt32}
    (ended : pollUntil src.metered request interval remaining polls m = (.ok outcome, m'))
    (tells : outcome.polls? = some told) :
    told = .ofNat m'.pumps ∧ m.pumps < m'.pumps
      ∧ m'.pumps ≤ m.pumps + 1 + remaining ⌈/⌉ max interval Span.millisecond := by
  have looking {m m₁ m₂ : Metered σ} {answer : Except SessionFault (Option Exit)}
      {count : Except SessionFault ℕ} (asked : src.metered.tryExit m = (answer, m₁))
      (read : src.metered.pump m₁ = (count, m₂)) : m₂.pumps = m.pumps + 1 := by
    obtain rfl : (src.metered.tryExit m).2 = m₁ := congrArg Prod.snd asked
    exact (congrArg (·.2.pumps) read).symm
  -- one look more is counted, by the word and by the meter
  have number {m m₂ : Metered σ} {polls : UInt32} (counted : polls = .ofNat m.pumps)
      (looked : m₂.pumps = m.pumps + 1) : polls + 1 = .ofNat m₂.pumps := by
    rw [counted, looked, UInt32.ofNat_add]
    rfl
  fun_induction pollUntil src.metered request interval remaining polls m with
  | case1 | case2 | case4 => cases ended
  | case3 =>
    obtain ⟨rfl, rfl⟩ := by simpa only [Prod.mk.injEq, Except.ok.injEq] using ended
    cases tells
  | case5 _ _ _ _ asked _ _ read | case6 _ _ _ asked _ _ read =>
    obtain ⟨rfl, rfl⟩ := by simpa only [Prod.mk.injEq, Except.ok.injEq] using ended
    have looked := looking asked read
    obtain rfl := Option.some.inj tells
    exact ⟨number counted looked, by omega, by omega⟩
  | case7 remaining _ _ _ asked _ m₂ read _ more step ih =>
    have looked := looking asked read
    obtain ⟨same, behind, within⟩ := ih (number counted looked) ended
    have slept : (src.metered.sleep step m₂).pumps = m₂.pumps := rfl
    have pos : 0 < max interval Span.millisecond :=
      Nat.lt_of_lt_of_le (by decide) (Nat.le_max_right _ _)
    have sleep := ceilDiv_sub_min pos more
    refine ⟨same, by omega, within.trans ?_⟩
    rw [slept, looked, Nat.add_assoc _ 1, Nat.add_comm 1]
    exact Nat.add_le_add_left sleep _

namespace Vigil

variable (v : Vigil σ)

/-- **A waiting tells the number of its looks modulo `2 ^ 32`**, whatever fails: there was at least
one, and there were not more than the timeout allows. -/
theorem polls_eq {outcome : WaitOutcome} {told : UInt32} (ended : v.outcome.1 = .ok outcome)
    (tells : outcome.polls? = some told) :
    told = .ofNat v.counted.2.pumps ∧ 1 ≤ v.counted.2.pumps ∧ v.counted.2.pumps ≤ v.limit := by
  rw [v.outcome_eq] at ended
  obtain ⟨same, pos, within⟩ := pollUntil_polls v.source v.request v.interval v.timeout
    (m := ⟨v.first, 0, 0, 0⟩) rfl (Prod.ext ended rfl) tells
  exact ⟨same, pos, within.trans_eq (by rw [limit, step, Nat.zero_add])⟩

/-- **What is told is right** exactly if it is told in time. -/
theorem toNat_polls_eq_iff {outcome : WaitOutcome} {told : UInt32}
    (ended : v.outcome.1 = .ok outcome) (tells : outcome.polls? = some told) :
    told.toNat = v.counted.2.pumps ↔ v.counted.2.pumps < 2 ^ 32 := by
  rw [(v.polls_eq ended tells).1, toNat_ofNat_eq_iff]

/-- **The looks can be counted in 32 bits** exactly if the timeout is not longer than so many
steps. -/
theorem limit_lt_iff : v.limit < 2 ^ 32 ↔ v.timeout ≤ (2 ^ 32 - 2) * v.step := by
  have key (sleeps : ℕ) : 1 + sleeps < 2 ^ 32 ↔ sleeps ≤ 2 ^ 32 - 2 := by omega
  rw [limit, Nat.mul_comm, ← ceilDiv_le_iff_le_mul v.step_pos]
  exact key _

variable {v}

/-- **A source that is looked at in vain** uses up all looks that the timeout allows, and the time
of the timeout in the sleeps between them. -/
theorem counted_of_vain (sound : v.Unfailing) (vain : v.VainBefore (v.limit + 1)) :
    ∃ x, v.counted = (.ok (.timedOut (.ofNat v.limit)), ⟨x, v.limit, v.limit, v.timeout⟩) := by
  have pos : 1 ≤ v.limit := Nat.le_add_right _ _
  obtain ⟨alive, unshown⟩ := vain v.limit pos (Nat.lt_succ_self _)
  have last : v.Last v.limit :=
    ⟨pos, le_rfl, fun j low high => vain j low (Nat.lt_succ_of_lt high), fun _ _ => rfl⟩
  obtain ⟨answer, counted, gives⟩ := last.counted_eq sound
  have meter : v.source.metered.look (v.metered (v.limit - 1))
      = ⟨v.source.look (v.before (v.limit - 1)), v.limit, v.limit, v.timeout⟩ := by
    have looks : v.limit - 1 + 1 = v.limit := Nat.sub_add_cancel pos
    have slept : min v.timeout ((v.limit - 1) * v.step) = v.timeout :=
      last.slept_eq_timeout_iff.mpr rfl
    conv_rhs => rw [← slept, ← looks]
    rfl
  refine ⟨v.source.look (v.before (v.limit - 1)), counted.trans ?_⟩
  rw [meter]
  cases gives with
  | exited seen => nomatch alive.symm.trans seen
  | satisfied _ shown => exact absurd shown unshown
  | timedOut => rfl

/-- It tells the number of these looks modulo `2 ^ 32`. -/
theorem outcome_of_vain (sound : v.Unfailing) (vain : v.VainBefore (v.limit + 1)) :
    v.outcome.1 = .ok (.timedOut (.ofNat v.limit)) ∧ v.counted.2.pumps = v.limit := by
  obtain ⟨x, counted⟩ := counted_of_vain sound vain
  rw [v.outcome_eq, counted]
  exact ⟨rfl, rfl⟩

/-- **What every look in vain leaves as it is**, and every sleep after it, keeps a waiting in vain
to its end. -/
theorem vain_of_keeps {P : σ → Prop} (first : P v.first)
    (alive : ∀ x, P x → (v.source.tryExit x).1 = .ok none)
    (read : ∀ x, P x → ∃ count, (v.source.pump (v.source.tryExit x).2).1 = .ok count)
    (unmet : ∀ x, P x → v.request.isMet (v.source.capture (v.source.look x)) = false)
    (sleep : ∀ x span, P x → P (v.source.sleep span (v.source.look x))) :
    v.Unfailing ∧ ∀ n, v.VainBefore n := by
  have kept (k : ℕ) : P (v.before k) := by
    induction k with
    | zero => exact first
    | succ k ih => exact sleep _ _ ih
  refine ⟨fun k _ => ⟨⟨none, alive _ (kept k)⟩, read _ (kept k)⟩, fun n j low _ => ?_⟩
  obtain ⟨k, rfl⟩ : ∃ k, j = k + 1 := ⟨j - 1, (Nat.sub_add_cancel low).symm⟩
  refine ⟨exitAt_succ (alive _ (kept k)), fun shown => ?_⟩
  have met : v.request.isMet (v.source.capture (v.source.look (v.before k))) = true :=
    List.all_eq_true.mpr shown
  exact nomatch met.symm.trans (unmet _ (kept k))

end Vigil

end NestedSession
