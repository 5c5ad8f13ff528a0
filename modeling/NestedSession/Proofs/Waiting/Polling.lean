import Mathlib.Algebra.Order.Floor.Div
import NestedSession.Proofs.System.Pairing
import NestedSession.Waiting.Poll

/-!
# Proofs/Waiting/Polling — how a waiting ends, and after how many looks

A waiting (`Vigil`) looks at its source again and again; what its source would answer at each look,
if all looks before were in vain, is fixed by the source alone (`Vigil.before`).  So the waiting
ends at the first look that ends it (`Vigil.Last`): the child has ended, every marker shows, or it
is the last look that the timeout allows (`Vigil.limit`).

The induction is on the looks made in vain (`Vigil.counted_eq_resume`): after `k` of them the loop
stands where it would have been started with `k` steps less to wait.  What the loop asks for is
counted by a source that keeps count (`Source.metered`) and answers as the one it is made of
(`Source.metered_mirrors`).
-/

namespace NestedSession

variable {σ : Type}

/-! ## Sources that answer alike -/

/-- **Sources that answer alike**, where what they are asked of is related. -/
structure Source.Alike {σ τ : Type} (src : Source σ) (src' : Source τ) (Q : σ → τ → Prop) :
    Prop where
  tryExit : ∀ {s t}, Q s t → Both Q (src.tryExit s) (src'.tryExit t)
  pump : ∀ {s t}, Q s t → Both Q (src.pump s) (src'.pump t)
  capture : ∀ {s t}, Q s t → src.capture s = src'.capture t
  sleep : ∀ {s t} span, Q s t → Q (src.sleep span s) (src'.sleep span t)

/-- **A waiting goes the same way on both.** -/
theorem Source.Alike.pollUntil {σ τ : Type} {src : Source σ} {src' : Source τ} {Q : σ → τ → Prop}
    (h : src.Alike src' Q) {s : σ} {t : τ} (q : Q s t) (request : WaitRequest)
    (interval remaining : Span) (polls : UInt32) :
    Both Q (pollUntil src request interval remaining polls s)
      (pollUntil src' request interval remaining polls t) := by
  induction remaining using Nat.strong_induction_on generalizing polls s t with
  | _ remaining ih =>
    have asked := h.tryExit q
    rw [NestedSession.pollUntil, NestedSession.pollUntil]
    generalize src.tryExit s = x, src'.tryExit t = y at asked ⊢
    obtain @⟨answer, s, t, q⟩ := asked
    rcases answer with fault | _ | exit
    · exact .mk _ q
    · have read := h.pump q
      simp only
      generalize src.pump s = x, src'.pump t = y at read ⊢
      obtain @⟨answer, s, t, q⟩ := read
      rcases answer with fault | count
      · exact .mk _ q
      · simp only [← h.capture q]
        split
        · exact .mk _ q
        · split
          · exact .mk _ q
          · next more =>
            exact ih _ (Nat.sub_lt (Nat.pos_of_ne_zero more) (nextStep_pos interval more))
              (h.sleep _ q) _
    · have read := h.pump q
      simp only
      generalize src.pump s = x, src'.pump t = y at read ⊢
      obtain @⟨_ | _, s, t, q⟩ := read <;> exact .mk _ q

/-- **One source seen through another**: `f` forgets what the first keeps beyond the second. -/
structure Source.Mirrors {τ : Type} (src' : Source τ) (src : Source σ) (f : τ → σ) : Prop where
  tryExit : ∀ t, src.tryExit (f t) = ((src'.tryExit t).1, f (src'.tryExit t).2)
  pump : ∀ t, src.pump (f t) = ((src'.pump t).1, f (src'.pump t).2)
  capture : ∀ t, src.capture (f t) = src'.capture t
  sleep : ∀ span t, src.sleep span (f t) = f (src'.sleep span t)

/-- **A waiting on what is seen of a source** is what is seen of a waiting on it. -/
theorem Source.Mirrors.pollUntil_eq {τ : Type} {src' : Source τ} {src : Source σ} {f : τ → σ}
    (h : src'.Mirrors src f) (request : WaitRequest) (interval remaining : Span) (polls : UInt32)
    (t : τ) :
    pollUntil src request interval remaining polls (f t)
      = ((pollUntil src' request interval remaining polls t).1,
          f (pollUntil src' request interval remaining polls t).2) := by
  have alike : src'.Alike src fun t s => f t = s :=
    { tryExit := by
        rintro t _ rfl
        exact Both.eq_map_iff.mpr (h.tryExit t)
      pump := by
        rintro t _ rfl
        exact Both.eq_map_iff.mpr (h.pump t)
      capture := by
        rintro t _ rfl
        exact (h.capture t).symm
      sleep := by
        rintro t _ span rfl
        exact (h.sleep span t).symm }
  exact Both.eq_map_iff.mp (alike.pollUntil rfl request interval remaining polls)

/-- A source, with the count of what it was asked for. -/
structure Metered (σ : Type) where
  state : σ
  checks : ℕ
  pumps : ℕ
  slept : Span

/-- **A source that keeps count**: of the questions whether it has ended, of the reads, and of the
time of all sleeps. -/
def Source.metered (src : Source σ) : Source (Metered σ) where
  tryExit m := ((src.tryExit m.state).1,
    { m with state := (src.tryExit m.state).2, checks := m.checks + 1 })
  pump m := ((src.pump m.state).1, { m with state := (src.pump m.state).2, pumps := m.pumps + 1 })
  capture m := src.capture m.state
  sleep span m := { m with state := src.sleep span m.state, slept := m.slept + span }

/-- Counting changes nothing. -/
theorem Source.metered_mirrors (src : Source σ) : src.metered.Mirrors src Metered.state :=
  ⟨fun _ => rfl, fun _ => rfl, fun _ => rfl, fun _ _ => rfl⟩

/-- **What every request to a source keeps, a waiting keeps.** -/
theorem pollUntil_keeps (src : Source σ) {P : σ → Prop}
    (tryExit : ∀ s, P s → P (src.tryExit s).2) (pump : ∀ s, P s → P (src.pump s).2)
    (sleep : ∀ span s, P s → P (src.sleep span s)) (request : WaitRequest)
    (interval remaining : Span) (polls : UInt32) {s : σ} (h : P s) :
    P (pollUntil src request interval remaining polls s).2 := by
  have asking {s s' : σ} {answer : Except SessionFault (Option Exit)} (h : P s)
      (asked : src.tryExit s = (answer, s')) : P s' := by
    have kept := tryExit s h
    rwa [asked] at kept
  have reading {s s' : σ} {answer : Except SessionFault ℕ} (h : P s)
      (read : src.pump s = (answer, s')) : P s' := by
    have kept := pump s h
    rwa [read] at kept
  fun_induction pollUntil src request interval remaining polls s with
  | case1 _ _ _ _ _ asked => exact asking h asked
  | case2 _ _ _ _ _ asked _ _ read | case3 _ _ _ _ _ asked _ _ read
  | case4 _ _ _ _ asked _ _ read | case5 _ _ _ _ asked _ _ read
  | case6 _ _ _ asked _ _ read => exact reading (asking h asked) read
  | case7 _ _ _ _ asked _ _ read _ _ _ ih => exact ih (sleep _ _ (reading (asking h asked) read))

/-- **A waiting that fails** stands where a request to the source failed. -/
theorem pollUntil_error (src : Source σ) {P : σ → Prop}
    (tryExit : ∀ s fault, (src.tryExit s).1 = .error fault → P (src.tryExit s).2)
    (pump : ∀ s fault, (src.pump s).1 = .error fault → P (src.pump s).2) (request : WaitRequest)
    (interval remaining : Span) (polls : UInt32) {s : σ} {fault : SessionFault}
    (failed : (pollUntil src request interval remaining polls s).1 = .error fault) :
    P (pollUntil src request interval remaining polls s).2 := by
  fun_induction pollUntil src request interval remaining polls s with
  | case1 _ _ s why s' asked =>
    have refused := tryExit s why
    rw [asked] at refused
    exact refused rfl
  | case2 _ _ _ _ s _ why _ read | case4 _ _ _ s _ why _ read =>
    have refused := pump s why
    rw [read] at refused
    exact refused rfl
  | case3 | case5 | case6 => nomatch failed
  | case7 _ _ _ _ _ _ _ _ _ _ _ ih => exact ih failed

/-! ## One look -/

/-- A source after a look: it was asked whether it has ended, and read. -/
def Source.look (src : Source σ) (s : σ) : σ := (src.pump (src.tryExit s).2).2

/-- The end of the child that an outcome tells, if it tells one. -/
def WaitOutcome.exit? : WaitOutcome → Option Exit
  | exited exit => some exit
  | satisfied _ | timedOut _ => none

/-- **A waiting that does not fail** ends with a look that does not fail either, and tells what that
look was told of the end. -/
theorem pollUntil_ok (src : Source σ) {P : σ → Prop}
    (tryExit : ∀ s, P s → P (src.tryExit s).2) (pump : ∀ s, P s → P (src.pump s).2)
    (sleep : ∀ span s, P s → P (src.sleep span s)) {request : WaitRequest}
    {interval remaining : Span} {polls : UInt32} {s s' : σ} {outcome : WaitOutcome} (h : P s)
    (ended : pollUntil src request interval remaining polls s = (.ok outcome, s')) :
    ∃ x, P x ∧ s' = src.look x ∧ (src.tryExit x).1 = .ok outcome.exit?
      ∧ ∃ count, (src.pump (src.tryExit x).2).1 = .ok count := by
  have looking {s s₁ s₂ : σ} {answer : Option Exit} {count : ℕ}
      (asked : src.tryExit s = (.ok answer, s₁)) (read : src.pump s₁ = (.ok count, s₂)) :
      s₂ = src.look s ∧ (src.tryExit s).1 = .ok answer
        ∧ ∃ count, (src.pump (src.tryExit s).2).1 = .ok count := by
    rw [Source.look, asked, read]
    exact ⟨rfl, rfl, count, rfl⟩
  fun_induction pollUntil src request interval remaining polls s with
  | case1 | case2 | case4 => nomatch ended
  | case3 _ _ s _ _ asked _ _ read =>
    obtain ⟨rfl, rfl⟩ := by simpa only [Prod.mk.injEq, Except.ok.injEq] using ended
    exact ⟨s, h, looking asked read⟩
  | case5 _ _ s _ asked _ _ read | case6 _ s _ asked _ _ read =>
    obtain ⟨rfl, rfl⟩ := by simpa only [Prod.mk.injEq, Except.ok.injEq] using ended
    exact ⟨s, h, looking asked read⟩
  | case7 _ _ s _ asked _ _ read _ _ _ ih =>
    refine ih (sleep _ _ ?_) ended
    rw [(looking asked read).1]
    exact pump _ (tryExit s h)

/-- **A waiting that fails** fails as a request to the source does. -/
theorem pollUntil_fault (src : Source σ) {P : SessionFault → Prop}
    (tryExit : ∀ s fault, (src.tryExit s).1 = .error fault → P fault)
    (pump : ∀ s fault, (src.pump s).1 = .error fault → P fault) {request : WaitRequest}
    {interval remaining : Span} {polls : UInt32} {s : σ} {fault : SessionFault}
    (failed : (pollUntil src request interval remaining polls s).1 = .error fault) : P fault := by
  fun_induction pollUntil src request interval remaining polls s with
  | case1 _ _ s why s' asked =>
    obtain rfl := Except.error.inj failed
    exact tryExit s why (congrArg Prod.fst asked)
  | case2 _ _ _ _ s _ why _ read | case4 _ _ _ s _ why _ read =>
    obtain rfl := Except.error.inj failed
    exact pump s why (congrArg Prod.fst read)
  | case3 | case5 | case6 => nomatch failed
  | case7 _ _ _ _ _ _ _ _ _ _ _ ih => exact ih failed

section

variable (src : Source σ) {s : σ} {count : ℕ} (request : WaitRequest) (interval remaining : Span)
  (polls : UInt32)

/-- A look that finds the child ended. -/
theorem pollUntil_of_exit {exit : Exit} (asked : (src.tryExit s).1 = .ok (some exit))
    (read : (src.pump (src.tryExit s).2).1 = .ok count) :
    pollUntil src request interval remaining polls s = (.ok (.exited exit), src.look s) := by
  have asked' : src.tryExit s = (.ok (some exit), (src.tryExit s).2) := Prod.ext asked rfl
  have read' : src.pump (src.tryExit s).2 = (.ok count, src.look s) := Prod.ext read rfl
  rw [pollUntil, asked']
  simp only [read']

/-- A look that finds the child alive. -/
theorem pollUntil_of_alive (asked : (src.tryExit s).1 = .ok none)
    (read : (src.pump (src.tryExit s).2).1 = .ok count) :
    pollUntil src request interval remaining polls s
      = if request.isMet (src.capture (src.look s)) then
          (.ok (.satisfied (polls + 1)), src.look s)
        else if remaining = 0 then (.ok (.timedOut (polls + 1)), src.look s)
        else pollUntil src request interval (remaining - nextStep interval remaining) (polls + 1)
          (src.sleep (nextStep interval remaining) (src.look s)) := by
  have asked' : src.tryExit s = (.ok none, (src.tryExit s).2) := Prod.ext asked rfl
  have read' : src.pump (src.tryExit s).2 = (.ok count, src.look s) := Prod.ext read rfl
  rw [pollUntil, asked']
  simp only [read']

end

/-! ## A waiting, look by look -/

/-- A waiting: what is looked at, for what, how often and how long. -/
structure Vigil (σ : Type) where
  source : Source σ
  request : WaitRequest
  interval : Span
  timeout : Span
  first : σ

namespace Vigil

variable (v : Vigil σ)

/-- The length of every sleep but perhaps the last. -/
def step : Span := max v.interval Span.millisecond

/-- **The most looks**: one at once, and one after each sleep. -/
def limit : ℕ := 1 + v.timeout ⌈/⌉ v.step

/-- **The source after so many looks in vain**, and the sleeps after them. -/
def before : ℕ → σ
  | 0 => v.first
  | k + 1 =>
    v.source.sleep (nextStep v.interval (v.timeout - k * v.step)) (v.source.look (before k))

/-- What the source answers at a look, the first being number 1, when it is asked whether it has
ended. -/
def exitAt (n : ℕ) : Option Exit :=
  match (v.source.tryExit (v.before (n - 1))).1 with
  | .ok answer => answer
  | .error _ => none

/-- Every marker that is waited for shows in its own output once the source is read at a look. -/
def ShownAt (n : ℕ) : Prop :=
  ∀ m ∈ v.request.markers,
    (v.source.capture (v.source.look (v.before (n - 1)))).contains m.1 m.2 = true

/-- **Nothing the source is asked for fails**, as long as the waiting can last. -/
def Unfailing : Prop :=
  ∀ k < v.limit, (∃ answer, (v.source.tryExit (v.before k)).1 = .ok answer) ∧
    ∃ count, (v.source.pump (v.source.tryExit (v.before k)).2).1 = .ok count

/-- Nothing the source is asked for fails at the looks up to one. -/
def UnfailingBefore (n : ℕ) : Prop :=
  ∀ k < n, (∃ answer, (v.source.tryExit (v.before k)).1 = .ok answer) ∧
    ∃ count, (v.source.pump (v.source.tryExit (v.before k)).2).1 = .ok count

/-- The waiting itself: how it ends, and the source that is left. -/
def outcome : Except SessionFault WaitOutcome × σ :=
  pollUntil v.source v.request v.interval v.timeout 0 v.first

/-- The waiting with a count kept. -/
def counted : Except SessionFault WaitOutcome × Metered σ :=
  pollUntil v.source.metered v.request v.interval v.timeout 0 ⟨v.first, 0, 0, 0⟩

theorem step_pos : 0 < v.step := Nat.lt_of_lt_of_le (by decide) (Nat.le_max_right _ _)

/-- All looks before one are made in vain: no end was seen, and some marker did not show. -/
def VainBefore (n : ℕ) : Prop := ∀ j, 1 ≤ j → j < n → v.exitAt j = none ∧ ¬ v.ShownAt j

/-- **The first look at which every marker shows**, no end being seen until then. -/
def FirstShown (n : ℕ) : Prop :=
  1 ≤ n ∧ n ≤ v.limit ∧ v.ShownAt n ∧ (∀ j, 1 ≤ j → j < n → ¬ v.ShownAt j)
    ∧ ∀ j, 1 ≤ j → j ≤ n → v.exitAt j = none

/-- **The first look at which the end is seen**, some marker missing at all before. -/
def FirstExit (n : ℕ) (exit : Exit) : Prop :=
  1 ≤ n ∧ n ≤ v.limit ∧ v.exitAt n = some exit ∧ v.VainBefore n

/-- The waiting is the one that counts, less the count. -/
theorem outcome_eq : v.outcome = (v.counted.1, v.counted.2.state) :=
  v.source.metered_mirrors.pollUntil_eq v.request v.interval v.timeout 0 ⟨v.first, 0, 0, 0⟩

theorem lt_limit_iff (k : ℕ) : k + 1 < v.limit ↔ k * v.step < v.timeout := by
  rw [limit, Nat.add_comm 1, Nat.add_lt_add_iff_right, ← not_le, ceilDiv_le_iff_le_mul v.step_pos,
    not_le, Nat.mul_comm]

/-- The source that keeps count, after so many looks in vain. -/
def metered (k : ℕ) : Metered σ := ⟨v.before k, k, k, min v.timeout (k * v.step)⟩

variable {v}

/-- What is left to wait after some sleeps, and after one more. -/
theorem left_sub_nextStep (k : ℕ) :
    v.timeout - k * v.step - nextStep v.interval (v.timeout - k * v.step)
      = v.timeout - (k + 1) * v.step := by
  have key (t a s : ℕ) : t - a - min s (t - a) = t - (a + s) := by omega
  rw [nextStep, ← step, Nat.succ_mul]
  exact key _ _ _

/-- How long was slept after some sleeps, and after one more. -/
theorem slept_add_nextStep (k : ℕ) :
    min v.timeout (k * v.step) + nextStep v.interval (v.timeout - k * v.step)
      = min v.timeout ((k + 1) * v.step) := by
  have key (t a s : ℕ) : min t a + min s (t - a) = min t (a + s) := by omega
  rw [nextStep, ← step, Nat.succ_mul]
  exact key _ _ _

/-- One more look and one more sleep. -/
theorem sleep_look_metered (k : ℕ) :
    v.source.metered.sleep (nextStep v.interval (v.timeout - k * v.step))
        (v.source.metered.look (v.metered k))
      = v.metered (k + 1) :=
  congrArg (Metered.mk (v.before (k + 1)) (k + 1) (k + 1)) (slept_add_nextStep k)

theorem isMet_iff_shownAt (k : ℕ) :
    v.request.isMet (v.source.metered.capture (v.source.metered.look (v.metered k))) = true
      ↔ v.ShownAt (k + 1) := List.all_eq_true

instance (n : ℕ) : Decidable (v.ShownAt n) :=
  inferInstanceAs (Decidable (∀ m ∈ _, _))

/-- A look that finds the child alive, after so many in vain. -/
theorem pollUntil_metered_of_alive {k count : ℕ} {remaining : Span} {polls : UInt32}
    (asked : (v.source.tryExit (v.before k)).1 = .ok none)
    (read : (v.source.pump (v.source.tryExit (v.before k)).2).1 = .ok count) :
    pollUntil v.source.metered v.request v.interval remaining polls (v.metered k)
      = if v.ShownAt (k + 1) then
          (.ok (.satisfied (polls + 1)), v.source.metered.look (v.metered k))
        else if remaining = 0 then
          (.ok (.timedOut (polls + 1)), v.source.metered.look (v.metered k))
        else pollUntil v.source.metered v.request v.interval
          (remaining - nextStep v.interval remaining) (polls + 1)
          (v.source.metered.sleep (nextStep v.interval remaining)
            (v.source.metered.look (v.metered k))) := by
  have alive := pollUntil_of_alive v.source.metered (s := v.metered k) v.request v.interval
    remaining polls asked read
  simpa only [isMet_iff_shownAt] using alive

theorem exitAt_succ {k : ℕ} {answer : Option Exit}
    (asked : (v.source.tryExit (v.before k)).1 = .ok answer) : v.exitAt (k + 1) = answer := by
  rw [exitAt, Nat.add_sub_cancel, asked]

/-- **After so many looks in vain** the loop stands where it would begin with as much less to
wait. -/
theorem counted_eq_resume {k : ℕ} (sound : v.UnfailingBefore k) (inside : k < v.limit)
    (vain : v.VainBefore (k + 1)) :
    v.counted = pollUntil v.source.metered v.request v.interval (v.timeout - k * v.step)
      (UInt32.ofNat k) (v.metered k) := by
  induction k with
  | zero => simp [counted, metered, before]
  | succ k ih =>
    rw [ih (fun j low => sound j (by omega)) (by omega) fun j low high => vain j low (by omega)]
    obtain ⟨unended, unshown⟩ := vain (k + 1) (by omega) (by omega)
    obtain ⟨⟨answer, asked⟩, count, read⟩ := sound k (by omega)
    obtain rfl : answer = none := (exitAt_succ asked).symm.trans unended
    rw [pollUntil_metered_of_alive asked read, if_neg unshown,
      if_neg (Nat.sub_ne_zero_of_lt ((v.lt_limit_iff k).mp inside)), left_sub_nextStep,
      sleep_look_metered, UInt32.ofNat_add]
    rfl

/-! ## The last look -/

variable (v) in
/-- **The look that ends the waiting**: all before are made in vain, and it is not unless it is the
last that the timeout allows. -/
structure Last (n : ℕ) : Prop where
  pos : 1 ≤ n
  le : n ≤ v.limit
  vain : v.VainBefore n
  ends : v.exitAt n = none → ¬ v.ShownAt n → n = v.limit

variable (v) in
/-- Every waiting has such a look. -/
theorem exists_last : ∃ n, v.Last n := by
  classical
  have some_end : ∃ n, 1 ≤ n ∧ (v.exitAt n = none → ¬ v.ShownAt n → n = v.limit) :=
    ⟨v.limit, by simp [limit], fun _ _ => rfl⟩
  obtain ⟨pos, ends⟩ := Nat.find_spec some_end
  refine ⟨Nat.find some_end, pos, Nat.find_min' some_end ⟨by simp [limit], fun _ _ => rfl⟩,
    fun j low high => ?_, ends⟩
  have unended := Nat.find_min some_end high
  push Not at unended
  exact ⟨(unended low).1, (unended low).2.1⟩

variable (v) in
/-- What a look gives that ends the waiting: the end comes first, then the markers, then the
timeout. -/
inductive Gives (n : ℕ) : WaitOutcome → Prop where
  | exited {exit : Exit} (seen : v.exitAt n = some exit) : Gives n (.exited exit)
  | satisfied (alive : v.exitAt n = none) (shown : v.ShownAt n) :
      Gives n (.satisfied (.ofNat n))
  | timedOut (alive : v.exitAt n = none) (unshown : ¬ v.ShownAt n) (last : n = v.limit) :
      Gives n (.timedOut (.ofNat n))

namespace Last

variable {n : ℕ}

/-- A first look that shows every marker is the last one. -/
theorem eq_of_firstShown (h : v.Last n) {m : ℕ} (first : v.FirstShown m) : m = n := by
  obtain ⟨pos, le, shown, unshown, alive⟩ := first
  rcases Nat.lt_trichotomy m n with before | same | behind
  · exact absurd shown (h.vain m pos before).2
  · exact same
  · have := h.ends (alive n h.pos behind.le) (unshown n h.pos behind)
    omega

/-- A first look that sees the end is the last one. -/
theorem eq_of_firstExit (h : v.Last n) {m : ℕ} {exit : Exit} (first : v.FirstExit m exit) :
    m = n := by
  obtain ⟨pos, le, seen, vain⟩ := first
  rcases Nat.lt_trichotomy m n with before | same | behind
  · exact absurd ((h.vain m pos before).1.symm.trans seen) (by simp)
  · exact same
  · have := h.ends (vain n h.pos behind).1 (vain n h.pos behind).2
    omega

/-- The last look, if no end is seen and every marker shows. -/
theorem firstShown (h : v.Last n) (alive : v.exitAt n = none) (shown : v.ShownAt n) :
    v.FirstShown n := by
  refine ⟨h.pos, h.le, shown, fun j low high => (h.vain j low high).2, fun j low high => ?_⟩
  rcases Nat.eq_or_lt_of_le high with rfl | high
  · exact alive
  · exact (h.vain j low high).1

/-- The last look, if it is in vain too. -/
theorem vain_succ (h : v.Last n) (alive : v.exitAt n = none) (unshown : ¬ v.ShownAt n) :
    v.VainBefore (n + 1) := by
  intro j low high
  rcases Nat.eq_or_lt_of_le (Nat.le_of_lt_succ high) with rfl | high
  · exact ⟨alive, unshown⟩
  · exact h.vain j low high

/-- **The waiting gives what its last look gives**, and has counted what it asked for, if no look
up to it fails. -/
theorem counted_eq_of_unfailingBefore (h : v.Last n) (sound : v.UnfailingBefore n) :
    ∃ answer, v.counted = (.ok answer, v.source.metered.look (v.metered (n - 1)))
      ∧ v.Gives n answer := by
  obtain ⟨k, rfl⟩ : ∃ k, n = k + 1 := ⟨n - 1, (Nat.sub_add_cancel h.pos).symm⟩
  rw [Nat.add_sub_cancel,
    counted_eq_resume (fun j low => sound j (Nat.lt_succ_of_lt low)) h.le h.vain]
  obtain ⟨⟨exit | exit, asked⟩, count, read⟩ := sound k (Nat.lt_succ_self k)
  · have alive : v.exitAt (k + 1) = none := exitAt_succ asked
    have number : UInt32.ofNat k + 1 = .ofNat (k + 1) := (UInt32.ofNat_add k 1).symm
    rw [pollUntil_metered_of_alive asked read, number]
    by_cases shown : v.ShownAt (k + 1)
    · exact ⟨_, if_pos shown, .satisfied alive shown⟩
    · have last := h.ends alive shown
      have spent : v.timeout - k * v.step = 0 :=
        Nat.sub_eq_zero_of_le (not_lt.mp (mt (v.lt_limit_iff k).mpr last.not_lt))
      exact ⟨_, (if_neg shown).trans (if_pos spent), .timedOut alive shown last⟩
  · exact ⟨_, pollUntil_of_exit v.source.metered _ _ _ _ asked read,
      .exited (exitAt_succ asked)⟩

theorem counted_eq (h : v.Last n) (sound : v.Unfailing) :
    ∃ answer, v.counted = (.ok answer, v.source.metered.look (v.metered (n - 1)))
      ∧ v.Gives n answer :=
  h.counted_eq_of_unfailingBefore fun k inside => sound k (inside.trans_le h.le)

variable {answer : WaitOutcome}

/-- Satisfied after so many looks: the last of them was the first to show every marker. -/
theorem eq_satisfied_iff (h : v.Last n) (short : v.limit < 2 ^ 32) (gives : v.Gives n answer)
    (m : UInt32) : answer = .satisfied m ↔ v.FirstShown m.toNat := by
  constructor
  · rintro rfl
    cases gives with
    | satisfied alive shown =>
      rw [UInt32.toNat_ofNat_of_lt' (h.le.trans_lt short)]
      exact h.firstShown alive shown
  · intro first
    have same : m.toNat = n := h.eq_of_firstShown first
    have alive : v.exitAt n = none := first.2.2.2.2 n h.pos same.ge
    have shown : v.ShownAt n := same ▸ first.2.2.1
    cases gives with
    | exited seen => exact absurd (alive.symm.trans seen) (by simp)
    | satisfied => rw [← same, UInt32.ofNat_toNat]
    | timedOut _ unshown => exact absurd shown unshown

/-- The child had ended: the last look was the first to see that. -/
theorem eq_exited_iff (h : v.Last n) (gives : v.Gives n answer) (exit : Exit) :
    answer = .exited exit ↔ ∃ k, v.FirstExit k exit := by
  constructor
  · rintro rfl
    cases gives with
    | exited seen => exact ⟨n, h.pos, h.le, seen, h.vain⟩
  · rintro ⟨k, first⟩
    obtain rfl : k = n := h.eq_of_firstExit first
    have seen : v.exitAt k = some exit := first.2.2.1
    cases gives with
    | exited seen' => rw [Option.some.inj (seen'.symm.trans seen)]
    | satisfied alive | timedOut alive => exact absurd (alive.symm.trans seen) (by simp)

/-- The time is over: no look that the timeout allows showed every marker or saw the end. -/
theorem eq_timedOut_iff (h : v.Last n) (gives : v.Gives n answer) :
    answer = .timedOut (.ofNat v.limit)
      ↔ (¬ ∃ m, v.FirstShown m) ∧ ¬ ∃ k exit, v.FirstExit k exit := by
  constructor
  · intro spent
    cases gives with
    | exited | satisfied => nomatch spent
    | timedOut alive unshown =>
      refine ⟨fun ⟨m, first⟩ => ?_, fun ⟨k, exit, first⟩ => ?_⟩
      · obtain rfl := h.eq_of_firstShown first
        exact unshown first.2.2.1
      · obtain rfl := h.eq_of_firstExit first
        exact absurd (alive.symm.trans first.2.2.1) (by simp)
  · rintro ⟨unshown, unended⟩
    cases gives with
    | exited seen => exact absurd ⟨n, _, h.pos, h.le, seen, h.vain⟩ unended
    | satisfied alive shown => exact absurd ⟨n, h.firstShown alive shown⟩ unshown
    | timedOut _ _ last => rw [last]

/-- The sleeps fill the timeout exactly if the look is the last that the timeout allows. -/
theorem slept_eq_timeout_iff (h : v.Last n) :
    min v.timeout ((n - 1) * v.step) = v.timeout ↔ n = v.limit := by
  have inside := v.lt_limit_iff (n - 1)
  rw [Nat.sub_add_cancel h.pos] at inside
  rw [min_eq_left_iff, ← not_lt, ← inside, not_lt]
  exact ⟨h.le.antisymm, Eq.ge⟩

end Last

/-- **How a waiting ends, in full.**  If nothing fails and the looks can be counted in 32 bits:

* it is satisfied after `n` looks exactly if the `n`-th is the first to show every marker;
* it finds the child ended exactly if some look is the first to see that;
* else the time is over, after as many looks as the timeout allows.

It ends at a look `c` within the limit, having asked `c` times for the end and read `c` times, the
last reading after the last question; its sleeps add up to `c - 1` steps, cut at the timeout. -/
theorem outcome_characterised (sound : v.Unfailing) (short : v.limit < 2 ^ 32) :
    (∀ n : UInt32, v.outcome.1 = .ok (.satisfied n) ↔ v.FirstShown n.toNat)
    ∧ (∀ exit, v.outcome.1 = .ok (.exited exit) ↔ ∃ k, v.FirstExit k exit)
    ∧ (v.outcome.1 = .ok (.timedOut (.ofNat v.limit))
        ↔ (¬ ∃ n, v.FirstShown n) ∧ ¬ ∃ k exit, v.FirstExit k exit)
    ∧ ∃ c, 1 ≤ c ∧ c ≤ v.limit
        ∧ v.outcome.2 = v.source.look (v.before (c - 1))
        ∧ v.counted = (v.outcome.1, ⟨v.outcome.2, c, c, min v.timeout ((c - 1) * v.step)⟩)
        ∧ v.counted.2.slept ≤ v.timeout
        ∧ (v.counted.2.slept = v.timeout ↔ c = v.limit)
        ∧ (v.FirstShown c ∨ (∃ exit, v.FirstExit c exit)
          ∨ (c = v.limit ∧ v.VainBefore (c + 1))) := by
  obtain ⟨c, last⟩ := v.exists_last
  obtain ⟨answer, counted, gives⟩ := last.counted_eq sound
  have outcome : v.outcome = (.ok answer, v.source.look (v.before (c - 1))) := by
    rw [v.outcome_eq, counted]
    rfl
  have meter : v.counted
      = (v.outcome.1, ⟨v.outcome.2, c, c, min v.timeout ((c - 1) * v.step)⟩) := by
    rw [counted, outcome, Source.look, metered, Source.metered]
    simp only [Nat.sub_add_cancel last.pos, Source.look]
  have answers (a : WaitOutcome) : v.outcome.1 = .ok a ↔ answer = a := by
    rw [outcome, Except.ok.injEq]
  have slept : v.counted.2.slept = min v.timeout ((c - 1) * v.step) := congrArg (·.2.slept) meter
  refine ⟨fun n => (answers _).trans (last.eq_satisfied_iff short gives n),
    fun exit => (answers _).trans (last.eq_exited_iff gives exit),
    (answers _).trans (last.eq_timedOut_iff gives), c, last.pos, last.le,
    congrArg Prod.snd outcome, meter, ?_, ?_, ?_⟩
  · rw [slept]
    exact min_le_left _ _
  · rw [slept]
    exact last.slept_eq_timeout_iff
  · cases gives with
    | exited seen => exact .inr (.inl ⟨_, last.pos, last.le, seen, last.vain⟩)
    | satisfied alive shown => exact .inl (last.firstShown alive shown)
    | timedOut alive unshown spent => exact .inr (.inr ⟨spent, last.vain_succ alive unshown⟩)

/-- A child that lives on and writes `ready` just before it is read for the second time. -/
def lateMarker : Vigil ℕ where
  source :=
    { tryExit := fun reads => (.ok none, reads)
      pump := fun reads => (.ok 0, reads + 1)
      capture := fun reads =>
        if reads < 2 then .empty else Capture.empty.push .stderr (Utf8.encode "ready")
      sleep := fun _ reads => reads }
  request := { stderr := some "ready" }
  interval := 2000000
  timeout := 5000000
  first := 0

/-- It is waited for with two looks, of four at most. -/
theorem outcome_lateMarker :
    lateMarker.Unfailing ∧ lateMarker.limit = 4
      ∧ lateMarker.outcome.1 = .ok (.satisfied 2) := by
  have sound : lateMarker.Unfailing := fun k _ => ⟨⟨none, rfl⟩, 0, rfl⟩
  have limit : lateMarker.limit = 4 := by decide
  have first : lateMarker.FirstShown 2 := by
    refine ⟨by decide, by decide, by decide, fun j low high => ?_, fun _ _ _ => rfl⟩
    obtain rfl : j = 1 := by omega
    decide
  exact ⟨sound, limit,
    ((outcome_characterised sound (limit.trans_lt (by decide))).1 2).mpr first⟩

end Vigil

end NestedSession
