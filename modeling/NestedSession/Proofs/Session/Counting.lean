import NestedSession.Proofs.Session.Output
import NestedSession.Proofs.Settings.Validity
import NestedSession.Proofs.Waiting.Counting

/-!
# Proofs/Session/Counting — whether a session tells how often it has looked

A session waits as its settings say: one look at once, and one after each interval that the timeout
allows (`Session.vigil`).  The check of the settings bounds the interval from below, by one
millisecond, and the timeout not at all, so it does not see to it that the looks can be counted in
32 bits.  They can, whatever the child does, exactly if a thousand times the seconds of the timeout
are not more than `2 ^ 32 - 2` times the milliseconds of the interval (`Session.limit_lt_iff`).
-/

namespace NestedSession

namespace Session

/-! ## The waiting of a session -/

section

variable {ω : Type} [Host ω] {s : Session} {child : Child} {request : WaitRequest} {w : ω}

/-- **The waiting of a session** for its child. -/
def vigil (s : Session) (w : ω) (child : Child) (request : WaitRequest) : Vigil (Waited ω) where
  source := polled
  request := request
  interval := s.settings.pollInterval
  timeout := request.timeout.getD s.settings.waitTimeout
  first := ⟨⟨w, child, s.capture⟩, s.clock⟩

/-- That is what a request that is not refused comes to. -/
theorem waitForOutput_fst (has : s.child = some child)
    (checked : request.check s.capture = .ok ()) :
    (s.waitForOutput w request).1 = (s.vigil w child request).outcome.1 := by
  obtain ⟨answer, x, polled, waited⟩ := waitForOutput_of_child has checked w
  rw [waited]
  exact (congrArg Prod.fst polled).symm

/-- Settings that pass their check have an interval. -/
theorem pollIntervalMs_pos (accepted : s.settings.check = .ok ()) :
    0 < s.settings.pollIntervalMs.toNat :=
  Nat.pos_of_ne_zero fun zero =>
    (s.settings.check_eq_ok_iff.mp accepted).pollInterval_pos (UInt64.toNat_inj.mp zero)

/-- So no sleep but the last is of another length. -/
theorem step_vigil (accepted : s.settings.check = .ok ()) :
    (s.vigil w child request).step = s.settings.pollInterval :=
  max_eq_left (Nat.mul_le_mul_right 1000000 (pollIntervalMs_pos accepted))

section

variable {seconds : UInt64} (accepted : s.settings.check = .ok ())
  (lasts : request.timeout.getD s.settings.waitTimeout = .ofSeconds seconds)
include accepted lasts

/-- So many steps cover the timeout if so many intervals do. -/
theorem timeout_le_iff (n : ℕ) :
    (s.vigil w child request).timeout ≤ (s.vigil w child request).step * n
      ↔ 1000 * seconds.toNat ≤ s.settings.pollIntervalMs.toNat * n := by
  have key (a b : ℕ) : a * 1000000000 ≤ b * 1000000 * n ↔ 1000 * a ≤ b * n := by
    rw [Nat.mul_right_comm b]
    omega
  have timeout : (s.vigil w child request).timeout = .ofSeconds seconds := lasts
  rw [step_vigil accepted, timeout]
  exact key _ _

/-- **The most looks of a session**: one at once, and one after each interval that has begun. -/
theorem limit_vigil :
    (s.vigil w child request).limit
      = 1 + (1000 * seconds.toNat) ⌈/⌉ s.settings.pollIntervalMs.toNat := by
  refine congrArg (1 + ·) (eq_of_forall_ge_iff fun n => ?_)
  rw [ceilDiv_le_iff_le_mul (Vigil.step_pos _), ceilDiv_le_iff_le_mul (pollIntervalMs_pos accepted)]
  exact timeout_le_iff accepted lasts n

/-- **Whether they can be counted in 32 bits.** -/
theorem limit_lt_iff :
    (s.vigil w child request).limit < 2 ^ 32
      ↔ 1000 * seconds.toNat ≤ s.settings.pollIntervalMs.toNat * (2 ^ 32 - 2) := by
  rw [Vigil.limit_lt_iff, Nat.mul_comm]
  exact timeout_le_iff accepted lasts (2 ^ 32 - 2)

/-- **How often a session tells that it has looked.**  Of a session with a child, whose settings
pass their check, that waits for so many seconds:

* It looks at the output once, and once more after each interval that the timeout allows to begin,
  at the most.
* Whatever the child does and whatever fails: if the waiting is satisfied or its time is over, it
  tells the number of its looks modulo `2 ^ 32`.  So it tells the true number if the timeout has
  not more than `2 ^ 32 - 2` intervals.
* If it has more, the number that is told of a child that lives on and never shows every marker is
  wrong: such a child is looked at as often as can be. -/
theorem waitForOutput_polls (has : s.child = some child)
    (checked : request.check s.capture = .ok ()) :
    (s.waitForOutput w request).1 = (s.vigil w child request).outcome.1
    ∧ (s.vigil w child request).limit
      = 1 + (1000 * seconds.toNat) ⌈/⌉ s.settings.pollIntervalMs.toNat
    ∧ (∀ outcome told, (s.waitForOutput w request).1 = .ok outcome → outcome.polls? = some told →
      told = .ofNat (s.vigil w child request).counted.2.pumps
      ∧ 1 ≤ (s.vigil w child request).counted.2.pumps
      ∧ (s.vigil w child request).counted.2.pumps ≤ (s.vigil w child request).limit
      ∧ (told.toNat = (s.vigil w child request).counted.2.pumps
        ↔ (s.vigil w child request).counted.2.pumps < 2 ^ 32)
      ∧ (1000 * seconds.toNat ≤ s.settings.pollIntervalMs.toNat * (2 ^ 32 - 2) →
        told.toNat = (s.vigil w child request).counted.2.pumps))
    ∧ ((s.vigil w child request).Unfailing →
      (s.vigil w child request).VainBefore ((s.vigil w child request).limit + 1) →
      ∃ told, (s.waitForOutput w request).1 = .ok (.timedOut told)
        ∧ (s.vigil w child request).counted.2.pumps = (s.vigil w child request).limit
        ∧ (told.toNat = (s.vigil w child request).counted.2.pumps
          ↔ 1000 * seconds.toNat ≤ s.settings.pollIntervalMs.toNat * (2 ^ 32 - 2))) := by
  have countable : (s.vigil w child request).limit < 2 ^ 32 ↔ _ := limit_lt_iff accepted lasts
  rw [waitForOutput_fst has checked, ← countable]
  refine ⟨rfl, limit_vigil accepted lasts, fun outcome told ended tells => ?_,
    fun sound vain => ?_⟩
  · obtain ⟨same, pos, within⟩ := Vigil.polls_eq _ ended tells
    have right := Vigil.toNat_polls_eq_iff _ ended tells
    exact ⟨same, pos, within, right, fun short => right.mpr (within.trans_lt short)⟩
  · obtain ⟨ended, all⟩ := Vigil.outcome_of_vain sound vain
    exact ⟨_, ended, all, by rw [all, toNat_ofNat_eq_iff]⟩

end

end

end Session

/-! ## A child that does nothing -/

/-- A drain of an output that has nothing changes nothing. -/
theorem Capture.drain_nil (c : Capture) (s : Stream) : c.drain s [] = ⟨.ok .empty, c, []⟩ := by
  cases s <;> simp [drain, Buffer.drain, ReadStatus.after, set, buffer, drainLimit]

/-- **A process that does nothing**: its script is over, and it lives on. -/
structure Scripted.Idles (w : Scripted) : Prop where
  script : w.script = []
  ended : w.ended = none
  unread : ∀ s, (w.conduit s).unread = []
  closed : ∀ s, (w.conduit s).closed = false

namespace Scripted.Idles

variable {w : Scripted} (h : w.Idles)
include h

theorem advance_eq : w.advance = w := by rw [advance, h.script]

theorem tryWait (pid : Pid) : Host.tryWait w pid = (.ok none, w) := by
  simp only [Host.tryWait, h.advance_eq, h.ended]

theorem unread_eq (pid : Pid) (s : Stream) : Host.unread w pid s = [] := by
  simp [Host.unread, h.unread, h.closed]

theorem leave (pid : Pid) (s : Stream) : Host.leave w pid s [] = w := by
  have same : w.keep s [] = w := by
    rw [keep, ← h.unread s]
    congr
    funext t
    split <;> simp_all
  exact (congrArg Scripted.advance same).trans h.advance_eq

theorem pause (span : Span) : (Host.pause w span).Idles := by
  have later : ({ w with clock := w.clock + span } : Scripted).Idles :=
    ⟨h.script, h.ended, h.unread, h.closed⟩
  have paused : Host.pause w span = { w with clock := w.clock + span } := later.advance_eq
  rw [paused]
  exact later

end Scripted.Idles

/-- Asked for its end it is alive, and it has nothing to read. -/
theorem Watched.of_idles {a : Watched Scripted} (h : a.host.Idles) (alive : a.child.exit = none) :
    a.tryExit = (.ok none, a) ∧ a.pump = (.ok 0, a) := by
  have pumped (s : Stream) : a.pumpStream s = (.ok 0, a) := by
    rw [pumpStream, h.unread_eq, Capture.drain_nil]
    simp only [h.leave, ite_self]
  refine ⟨?_, ?_⟩
  · rw [tryExit, alive]
    simp only [h.tryWait]
  · rw [pump, pumped]
    simp only [pumped]

namespace Session

/-- **A child that does nothing is waited for in vain**, as long as the waiting can last. -/
theorem vain_of_idles {s : Session} {child : Child} {request : WaitRequest} {w : Scripted}
    (idles : w.Idles) (alive : child.exit = none) (unmet : request.isMet s.capture = false) :
    (s.vigil w child request).Unfailing ∧ ∀ n, (s.vigil w child request).VainBefore n := by
  have still (x : Waited Scripted) (h : x.host.Idles ∧ x.child = child ∧ x.capture = s.capture) :
      x.toWatched.tryExit = (.ok none, x.toWatched) ∧ x.toWatched.pump = (.ok 0, x.toWatched) :=
    Watched.of_idles h.1 (h.2.1 ▸ alive)
  refine Vigil.vain_of_keeps
    (P := fun x : Waited Scripted => x.host.Idles ∧ x.child = child ∧ x.capture = s.capture)
    ⟨idles, rfl, rfl⟩ (fun x h => ?_) (fun x h => ⟨0, ?_⟩) (fun x h => ?_) (fun x span h => ?_)
  all_goals
    obtain ⟨asked, read⟩ := still x h
    simp only [vigil, Source.look, polled, asked, read]
  · rw [h.2.2]
    exact unmet
  · split
    · exact ⟨h.1.pause span, h.2⟩
    · exact h

/-- A session that looks every millisecond at a child that does nothing. -/
def hasty : Session :=
  { justBuilt.having (.fresh 7) with settings.pollIntervalMs := 1 }

/-- It waits for `4294968` seconds, looks `4294968001` times, and tells that it has looked `705`
times. -/
theorem waitForOutput_polls_hasty : ∃ request : WaitRequest,
    request.timeout = some (.ofSeconds 4294968) ∧ hasty.settings.check = .ok ()
    ∧ request.check hasty.capture = .ok ()
    ∧ (hasty.vigil (Scripted.idle []) (.fresh 7) request).counted.2.pumps = 4294968001
    ∧ (hasty.waitForOutput (Scripted.idle []) request).1 = .ok (.timedOut 705) := by
  have accepted : hasty.settings.check = .ok () := (SessionSettings.check_eq_ok_iff _).mpr
    ⟨⟨'p', by decide, by decide⟩, by decide, by decide, by decide +kernel, by decide⟩
  obtain ⟨request, asked⟩ : ∃ request : WaitRequest,
    request = { stderr := some "x", timeout := some (.ofSeconds 4294968) } := ⟨_, rfl⟩
  have lasts : request.timeout.getD hasty.settings.waitTimeout = .ofSeconds 4294968 := by
    rw [asked, Option.getD_some]
  have checked : request.check hasty.capture = .ok () := by
    rw [asked]
    decide +kernel
  have unmet : request.isMet hasty.capture = false := by
    rw [asked]
    decide +kernel
  have idles : (Scripted.idle []).Idles := ⟨rfl, rfl, fun _ => rfl, fun _ => rfl⟩
  obtain ⟨-, limit, counts, vain⟩ :=
    waitForOutput_polls (w := Scripted.idle []) accepted lasts rfl checked
  have alive : (Child.fresh 7).exit = none := rfl
  obtain ⟨sound, all⟩ := vain_of_idles idles alive unmet
  obtain ⟨told, ended, looks, -⟩ := vain sound (all _)
  obtain ⟨same, -⟩ := counts _ told ended rfl
  have number : (hasty.vigil (Scripted.idle []) (.fresh 7) request).counted.2.pumps
      = 4294968001 := by
    rw [looks, limit]
    rfl
  rw [number] at same
  refine ⟨request, by rw [asked], accepted, checked, number, ?_⟩
  rw [ended, same]
  rfl

end Session

end NestedSession
