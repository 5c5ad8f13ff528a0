import NestedSession.Proofs.Waiting.Polling

/-!
# Proofs/Waiting/Ending — an end of the child that is told, and the time that is left then

A waiting tells that the child has ended exactly if some look is the first to see that and no look
up to it fails, whatever would fail behind it (`Vigil.outcome_eq_exited_iff`).  Every look but the
last that the timeout allows is made while some of the timeout is left; that one is made when all of
it was slept.  So the end is told in time exactly if an earlier look sees it
(`Vigil.exited_in_time_iff`), and an end that only the last look sees is told all the same
(`Vigil.exited_shortLived_three`).
-/

namespace NestedSession

variable {σ : Type}

/-- **A look that fails** is the end of the waiting, and the waiting fails. -/
theorem pollUntil_of_failing (src : Source σ) (s : σ)
    (failing : ¬ ((∃ answer, (src.tryExit s).1 = .ok answer)
      ∧ ∃ count, (src.pump (src.tryExit s).2).1 = .ok count))
    (request : WaitRequest) (interval remaining : Span) (polls : UInt32) :
    ∃ fault, (pollUntil src request interval remaining polls s).1 = .error fault := by
  rw [pollUntil]
  rcases asked : src.tryExit s with ⟨fault | answer, s₁⟩
  · exact ⟨fault, rfl⟩
  · rcases read : src.pump s₁ with ⟨fault | count, s₂⟩
    · cases answer <;> exact ⟨fault, by simp only [read]⟩
    · exact absurd ⟨⟨answer, by rw [asked]⟩, count, by rw [asked, read]⟩ failing

namespace Vigil

variable {v : Vigil σ} {n : ℕ} {exit : Exit}

/-- **A waiting that does not fail** was failed by no look up to its last. -/
theorem Last.unfailingBefore (h : v.Last n) {outcome : WaitOutcome}
    (ended : v.counted.1 = .ok outcome) : v.UnfailingBefore n := by
  have looks (k : ℕ) (le : k ≤ n) : v.UnfailingBefore k := by
    induction k with
    | zero => exact nofun
    | succ k ih =>
      have sound := ih (Nat.le_of_succ_le le)
      have resumed := counted_eq_resume sound (Nat.lt_of_lt_of_le le h.le) fun j low high =>
        h.vain j low (high.trans_le le)
      intro j low
      rcases Nat.lt_succ_iff_lt_or_eq.mp low with before | rfl
      · exact sound j before
      · by_contra failing
        obtain ⟨fault, failed⟩ := pollUntil_of_failing v.source.metered
          (v.metered j) failing v.request v.interval (v.timeout - j * v.step) (.ofNat j)
        rw [resumed, failed] at ended
        cases ended
  exact looks n le_rfl

/-- The first look that sees the end is the last one. -/
theorem FirstExit.last (h : v.FirstExit n exit) : v.Last n :=
  ⟨h.1, h.2.1, h.2.2.2, fun alive => nomatch alive.symm.trans h.2.2.1⟩

/-- **A look that sees the end**, if no look up to it fails: the waiting tells the end, and has asked
and read once for each look. -/
theorem FirstExit.counted_eq (h : v.FirstExit n exit) (sound : v.UnfailingBefore n) :
    v.counted = (.ok (.exited exit), v.source.metered.look (v.metered (n - 1))) := by
  obtain ⟨answer, counted, gives⟩ := h.last.counted_eq_of_unfailingBefore sound
  cases gives with
  | exited seen => rw [counted, Option.some.inj (seen.symm.trans h.2.2.1)]
  | satisfied alive | timedOut alive => nomatch alive.symm.trans h.2.2.1

/-- **An end is told** exactly if a look is the first to see it, and no look up to it fails. -/
theorem outcome_eq_exited_iff :
    v.outcome.1 = .ok (.exited exit) ↔ ∃ n, v.FirstExit n exit ∧ v.UnfailingBefore n := by
  rw [v.outcome_eq]
  constructor
  · intro told
    obtain ⟨n, last⟩ := v.exists_last
    have sound := last.unfailingBefore told
    obtain ⟨answer, counted, gives⟩ := last.counted_eq_of_unfailingBefore sound
    obtain rfl : answer = .exited exit := Except.ok.inj ((congrArg Prod.fst counted).symm.trans told)
    cases gives with
    | exited seen => exact ⟨n, ⟨last.pos, last.le, seen, last.vain⟩, sound⟩
  · rintro ⟨n, first, sound⟩
    exact congrArg Prod.fst (first.counted_eq sound)

/-- What was asked for until the end was seen: a question and a read for each look, and the sleeps
between the looks. -/
theorem FirstExit.meter_eq (h : v.FirstExit n exit) (sound : v.UnfailingBefore n) :
    v.counted.2 = ⟨v.outcome.2, n, n, min v.timeout ((n - 1) * v.step)⟩ := by
  rw [v.outcome_eq, h.counted_eq sound]
  simp only [Source.look, metered, Source.metered, Nat.sub_add_cancel h.1]

/-- **When the end of the child is told.**

* It is told exactly if some look is the first to see it and no look up to that one fails.
* If it is told, that look is the last one made, and what was slept by then is less than the timeout
  exactly if the timeout allows another look.  Never was more slept than the timeout.
* So the whole timeout was slept exactly if the last look that it allows was the first to see the
  end. -/
theorem exited_in_time_iff (v : Vigil σ) (exit : Exit) :
    (v.outcome.1 = .ok (.exited exit) ↔ ∃ n, v.FirstExit n exit ∧ v.UnfailingBefore n)
    ∧ (v.outcome.1 = .ok (.exited exit) → ∃ n, v.FirstExit n exit
        ∧ v.counted.2 = ⟨v.outcome.2, n, n, min v.timeout ((n - 1) * v.step)⟩
        ∧ v.counted.2.slept ≤ v.timeout
        ∧ (v.counted.2.slept < v.timeout ↔ n < v.limit)
        ∧ (v.counted.2.slept = v.timeout ↔ n = v.limit)) := by
  refine ⟨outcome_eq_exited_iff, fun told => ?_⟩
  obtain ⟨n, first, sound⟩ := outcome_eq_exited_iff.mp told
  have meter := first.meter_eq sound
  have whole := first.last.slept_eq_timeout_iff
  refine ⟨n, first, meter, ?_⟩
  rw [meter]
  refine ⟨min_le_left _ _, ?_, whole⟩
  rw [lt_iff_le_and_ne, Ne, whole, lt_iff_le_and_ne, Ne]
  exact and_congr_left fun _ => iff_of_true (min_le_left _ _) first.2.1

/-- A child that writes nothing and has ended once it was read so many times.  It is looked at every
2 ms, and there are 5 ms, so the last sleep is cut short. -/
def shortLived (reads : ℕ) : Vigil ℕ where
  source :=
    { tryExit := fun n => (.ok (if n < reads then none else some (.exited 1)), n)
      pump := fun n => (.ok 0, n + 1)
      capture := fun _ => .empty
      sleep := fun _ n => n }
  request := { stderr := some "ready" }
  interval := 2000000
  timeout := 5000000
  first := 0

theorem before_shortLived (reads k : ℕ) : (shortLived reads).before k = k := by
  induction k with
  | zero => rfl
  | succ k ih => exact congrArg (· + 1) ih

theorem not_shownAt_shortLived (reads n : ℕ) : ¬ (shortLived reads).ShownAt n :=
  show ¬ ∀ m ∈ [(Stream.stderr, "ready")], Capture.empty.contains m.1 m.2 = true by decide

/-- Its end is seen at the look behind these reads, if the time allows that look. -/
theorem firstExit_shortLived (reads : ℕ) (short : reads < 4) :
    (shortLived reads).FirstExit (reads + 1) (.exited 1)
      ∧ (shortLived reads).UnfailingBefore (reads + 1) := by
  have limit : (shortLived reads).limit = 4 := show (shortLived 0).limit = 4 by decide
  have answers (k : ℕ) : (shortLived reads).exitAt (k + 1)
      = if k < reads then none else some (.exited 1) := by
    rw [exitAt, Nat.add_sub_cancel, before_shortLived]
    rfl
  refine ⟨⟨Nat.succ_pos _, limit ▸ short, (answers reads).trans (if_neg (lt_irrefl _)),
    fun j low high => ?_⟩, fun k _ => ⟨⟨_, rfl⟩, 0, rfl⟩⟩
  obtain ⟨k, rfl⟩ : ∃ k, j = k + 1 := ⟨j - 1, (Nat.sub_add_cancel low).symm⟩
  exact ⟨(answers k).trans (if_pos (Nat.succ_lt_succ_iff.mp high)), not_shownAt_shortLived _ _⟩

/-- A child that ends after the first look is seen by the second, and told with 3 ms left. -/
theorem exited_in_time_shortLived :
    (shortLived 1).outcome.1 = .ok (.exited (.exited 1))
      ∧ (shortLived 1).counted.2.slept < (shortLived 1).timeout := by
  have told : (shortLived 1).outcome.1 = .ok (.exited (.exited 1)) :=
    ((shortLived 1).exited_in_time_iff (.exited 1)).1.mpr ⟨2, firstExit_shortLived 1 (by decide)⟩
  obtain ⟨n, first, -, -, early, -⟩ := ((shortLived 1).exited_in_time_iff (.exited 1)).2 told
  obtain rfl : 2 = n :=
    first.last.eq_of_firstExit (firstExit_shortLived 1 (by decide)).1
  exact ⟨told, early.mpr (by decide)⟩

/-- **An end that only the last look sees** is told although the whole timeout was slept: the marker
did not show before, nor does it ever. -/
theorem exited_shortLived_three :
    (shortLived 3).request.markers ≠ [] ∧ 0 < (shortLived 3).timeout
      ∧ (∀ n, ¬ (shortLived 3).ShownAt n)
      ∧ (shortLived 3).outcome.1 = .ok (.exited (.exited 1))
      ∧ ¬ (shortLived 3).counted.2.slept < (shortLived 3).timeout := by
  obtain ⟨first, sound⟩ := firstExit_shortLived 3 (by decide)
  refine ⟨by decide, by decide, not_shownAt_shortLived 3,
    outcome_eq_exited_iff.mpr ⟨4, first, sound⟩, ?_⟩
  rw [first.meter_eq sound]
  decide

end Vigil

end NestedSession
