import NestedSession.Proofs.Session.Echoing
import NestedSession.Proofs.Session.Release
import NestedSession.Proofs.Text.Lines
import NestedSession.Session.Scenario

/-!
# Proofs/Session/Policy — what a scenario makes of its session

A scenario sets its session up, has its body act on it, and ends it (`Performed`); then the first
that did not go well decides: the body, the end, the log (`Ruled`).  Whether the log has a critical
line is whether the marker of one is anywhere in it (`SessionReport.isCritical_iff`).  Every
scenario that comes to its end goes one of these ways, and no other (`SessionPlan.run_eq_some_iff`);
and where the clock cannot show the deadline for the child, a scenario does not come to its end
(`SessionPlan.run_eq_none_iff`), though its body may have acted.
-/

namespace NestedSession

/-! ## The verdict on a report -/

/-- A critical line in the log. -/
def SessionReport.IsCritical (report : SessionReport) : Prop :=
  ∃ line ∈ Text.lines report.stderr.toList, "-CRITICAL **".toList <:+: line

/-- **The log has a critical line** exactly if the marker of one is anywhere in it. -/
theorem SessionReport.isCritical_iff (report : SessionReport) :
    report.IsCritical ↔ "-CRITICAL **".toList <:+: report.stderr.toList :=
  Text.exists_line_iff (by decide) (by decide) (by decide) report.stderr.toList

/-- The graded lines of the log tell whether there are any. -/
theorem SessionReport.isEmpty_graded_iff (report : SessionReport) :
    (report.graded .critical).isEmpty = true ↔ ¬ report.IsCritical := by
  rw [List.isEmpty_iff, ← not_ne_iff]
  exact not_congr (Text.linesWith_ne_nil_iff _ _)

/-- The critical lines are the lines that hold the marker, in order. -/
theorem SessionReport.toList_graded (report : SessionReport) :
    (report.graded .critical).map String.toList
      = (Text.lines report.stderr.toList).filter fun line => "-CRITICAL **".toList <:+: line :=
  Text.toList_linesWith _ _

section

variable {α : Type}

section

variable {value : α} {report : SessionReport}

theorem verdict_of_unclean (unclean : report.clean = false) :
    verdict (.ok value) report = .error (.abnormalExit report) := by simp [verdict, unclean]

theorem verdict_of_critical (clean : report.clean = true) (critical : report.IsCritical) :
    verdict (.ok value) report = .error (.criticalLines (report.graded .critical) report) := by
  have graded : ¬ (report.graded .critical).isEmpty = true :=
    mt report.isEmpty_graded_iff.mp (not_not_intro critical)
  simp only [verdict, clean, Bool.not_true, Bool.false_eq_true, if_false, if_neg graded]

theorem verdict_of_uncritical (clean : report.clean = true) (uncritical : ¬ report.IsCritical) :
    verdict (.ok value) report = .ok ⟨value, report⟩ := by
  have ungraded := report.isEmpty_graded_iff.mpr uncritical
  simp only [verdict, clean, Bool.not_true, Bool.false_eq_true, if_false, if_pos ungraded]

end

/-- **What decides about a scenario** whose body acted and whose session ended: the body comes
first, then the end, then the log. -/
inductive Ruled (result : Except SessionFault α) (report : SessionReport) :
    Except ScenarioFault (ScenarioOutput α) → Prop
  /-- The body failed. -/
  | failed {fault : SessionFault} (failed : result = .error fault) :
      Ruled result report (.error (.body fault report))
  /-- The end was not clean. -/
  | unclean {value : α} (done : result = .ok value) (unclean : report.clean = false) :
      Ruled result report (.error (.abnormalExit report))
  /-- A critical line is in the log; those lines are told, in order. -/
  | critical {value : α} {lines : List String} (done : result = .ok value)
      (clean : report.clean = true)
      (critical : "-CRITICAL **".toList <:+: report.stderr.toList)
      (told : lines.map String.toList = (Text.lines report.stderr.toList).filter
        fun line => "-CRITICAL **".toList <:+: line) :
      Ruled result report (.error (.criticalLines lines report))
  /-- All went well. -/
  | passed {value : α} (done : result = .ok value) (clean : report.clean = true)
      (uncritical : ¬ "-CRITICAL **".toList <:+: report.stderr.toList) :
      Ruled result report (.ok ⟨value, report⟩)

/-- **The verdict is what decides**, and nothing else does. -/
theorem verdict_eq_iff {result : Except SessionFault α} {report : SessionReport}
    {outcome : Except ScenarioFault (ScenarioOutput α)} :
    verdict result report = outcome ↔ Ruled result report outcome := by
  constructor
  · rintro rfl
    cases result with
    | error fault => exact .failed rfl
    | ok value =>
      cases clean : report.clean with
      | false => exact verdict_of_unclean clean ▸ .unclean rfl clean
      | true =>
        by_cases critical : report.IsCritical
        · exact verdict_of_critical clean critical ▸
            .critical rfl clean (report.isCritical_iff.mp critical) report.toList_graded
        · exact verdict_of_uncritical clean critical ▸
            .passed rfl clean (mt report.isCritical_iff.mpr critical)
  · rintro (⟨rfl⟩ | ⟨rfl, unclean⟩ | ⟨rfl, clean, critical, told⟩ | ⟨rfl, clean, uncritical⟩)
    · rfl
    · exact verdict_of_unclean unclean
    · have same := told.trans report.toList_graded.symm
      rw [verdict_of_critical clean (report.isCritical_iff.mpr critical),
        List.map_injective_iff.mpr (fun _ _ => String.toList_injective) same]
    · exact verdict_of_uncritical clean (mt report.isCritical_iff.mp uncritical)

end

variable {ω : Type} [Host ω] {α β : Type}

/-! ## The stages of a scenario -/

namespace SessionPlan

/-- **A scenario whose body acted and whose session ended**: the session was set up and became
ready, the body was called on it, and what the body left was torn down. -/
inductive Performed (plan : SessionPlan) (body : ScenarioBody ω α β) (w : ω)
    (result : Except SessionFault α) (note : β) (report : SessionReport) (w' : ω) : Prop
  | intro {s s₁ s₂ : Session} {w₁ w₂ w₃ : ω} (built : plan.build w = (.ok s, w₁))
      (spawned : s.spawn w₁ = some (.ok s₁, w₂))
      (called : body w₂ s₁ = ((result, note), w₃, s₂))
      (ended : s₂.teardown w₃ = some (report, w')) : Performed plan body w result note report w'

/-- **How a scenario comes to its end.** -/
inductive Staged (plan : SessionPlan) (body : ScenarioBody ω α β) (w : ω) :
    Except ScenarioFault (ScenarioOutput α) → Option β → ω → Prop
  /-- The session was not set up. -/
  | unbuilt {fault : SessionFault} {w' : ω} (refused : plan.build w = (.error fault, w')) :
      Staged plan body w (.error (.setup fault)) none w'
  /-- The session did not become ready. -/
  | unready {s : Session} {fault : SessionFault} {w₁ w' : ω}
      (built : plan.build w = (.ok s, w₁)) (failed : s.spawn w₁ = some (.error fault, w')) :
      Staged plan body w (.error (.setup fault)) none w'
  /-- The body acted, and its session was torn down. -/
  | performed {result : Except SessionFault α} {note : β} {report : SessionReport} {w' : ω}
      {outcome : Except ScenarioFault (ScenarioOutput α)}
      (performed : Performed plan body w result note report w')
      (ruled : Ruled result report outcome) : Staged plan body w outcome (some note) w'

/-- **Where a scenario does not come to its end**: its session is to end, and is stuck. -/
inductive Halted (plan : SessionPlan) (body : ScenarioBody ω α β) (w : ω) : Prop
  /-- The session did not become ready, and cannot be given up. -/
  | starting {s s' : Session} {w₁ w' : ω} (built : plan.build w = (.ok s, w₁))
      (given : s.GivenUp w₁ w' s') (stuck : s'.Stuck w') : Halted plan body w
  /-- The body acted, and its session cannot be torn down. -/
  | ending {s s₁ : Session} {w₁ w₂ : ω} (built : plan.build w = (.ok s, w₁))
      (spawned : s.spawn w₁ = some (.ok s₁, w₂))
      (stuck : (body w₂ s₁).2.2.Stuck (body w₂ s₁).2.1) : Halted plan body w

end SessionPlan

/-- A start is not answered exactly where the session is given up and is stuck. -/
theorem Session.spawn_eq_none_iff (s : Session) (w : ω) :
    s.spawn w = none ↔ ∃ w' s', s.GivenUp w w' s' ∧ s'.Stuck w' := by
  constructor
  · intro unanswered
    rcases s.spawn_cases w with ⟨_, _, _, _, _, -, -, -, ready⟩ | ⟨w', s', given⟩
    · nomatch unanswered.symm.trans ready
    · obtain ⟨fault, spawned⟩ := given.spawn_eq
      rw [spawned, failWith, Option.map_eq_none_iff] at unanswered
      exact ⟨w', s', given, (abandon_eq_none_iff w').mp unanswered⟩
  · rintro ⟨w', s', given, stuck⟩
    obtain ⟨fault, spawned⟩ := given.spawn_eq
    rw [spawned, failWith, Option.map_eq_none_iff]
    exact (abandon_eq_none_iff w').mpr stuck

namespace SessionPlan

section

variable {plan : SessionPlan} {body : ScenarioBody ω α β} {w w₁ w' : ω} {s₀ : Session}
  (built : plan.build w = (.ok s₀, w₁))
include built

/-- A scenario whose session does not get ready. -/
theorem run_of_unready {fault : SessionFault} (spawned : s₀.spawn w₁ = some (.error fault, w')) :
    plan.run body w = some ((.error (.setup fault), none), w') := by
  simp only [run, built, spawned]

/-- A scenario whose session gets ready, and ends. -/
theorem run_of_ready {s : Session} {w₂ : ω} (spawned : s₀.spawn w₁ = some (.ok s, w₂))
    {report : SessionReport}
    (ended : (body w₂ s).2.2.teardown (body w₂ s).2.1 = some (report, w')) :
    plan.run body w = some ((verdict (body w₂ s).1.1 report, some (body w₂ s).1.2), w') := by
  simp only [run, built, spawned, ended]

variable {x : Except ScenarioFault (ScenarioOutput α) × Option β}
  (finished : plan.run body w = some (x, w'))
include finished

/-- A scenario that came to its end, but whose session did not get ready, ends where that is given
up. -/
theorem abandon_of_run {s : Session} {w₂ : ω} {fault : SessionFault}
    (spawned : s₀.spawn w₁ = s.failWith w₂ fault) : s.abandon w₂ = some w' := by
  simp only [run, built, spawned, Session.failWith] at finished
  cases ended : s.abandon w₂ with
  | none =>
    rw [ended] at finished
    cases finished
  | some w₃ =>
    simp only [ended, Option.map_some, Option.some.injEq, Prod.mk.injEq] at finished
    rw [finished.2]

/-- A scenario that came to its end, and whose session got ready, ends where that ends. -/
theorem teardown_of_run {s : Session} {w₂ : ω} (spawned : s₀.spawn w₁ = some (.ok s, w₂)) :
    ∃ report, (body w₂ s).2.2.teardown (body w₂ s).2.1 = some (report, w') := by
  simp only [run, built, spawned] at finished
  cases ended : (body w₂ s).2.2.teardown (body w₂ s).2.1 with
  | none =>
    rw [ended] at finished
    cases finished
  | some r =>
    simp only [ended, Option.some.injEq, Prod.mk.injEq] at finished
    exact ⟨r.1, by rw [← finished.2]⟩

end

variable (plan : SessionPlan) (body : ScenarioBody ω α β) (w : ω)

/-- **Every scenario that comes to its end goes one of the ways named**, and each of these ways is a
scenario. -/
theorem run_eq_some_iff {outcome : Except ScenarioFault (ScenarioOutput α)} {note : Option β}
    {w' : ω} :
    plan.run body w = some ((outcome, note), w') ↔ Staged plan body w outcome note w' := by
  constructor
  · intro finished
    rcases built : plan.build w with ⟨fault | s, w₁⟩
    · obtain ⟨⟨rfl, rfl⟩, rfl⟩ := by simpa [run, built] using finished
      exact .unbuilt built
    rcases spawned : s.spawn w₁ with _ | ⟨fault | s₁, w₂⟩
    · simp [run, built, spawned] at finished
    · obtain ⟨⟨rfl, rfl⟩, rfl⟩ := by
        simpa using (run_of_unready built spawned).symm.trans finished
      exact .unready built spawned
    · obtain ⟨report, ended⟩ := teardown_of_run built finished spawned
      have performed : Performed plan body w (body w₂ s₁).1.1 (body w₂ s₁).1.2 report w' :=
        ⟨built, spawned, rfl, ended⟩
      obtain ⟨ruled, rfl⟩ := by
        simpa using (run_of_ready built spawned ended).symm.trans finished
      exact .performed performed (verdict_eq_iff.mp ruled)
  · rintro (⟨refused⟩ | ⟨built, failed⟩ | ⟨⟨built, spawned, called, ended⟩, ruled⟩)
    · simp only [run, refused]
    · exact run_of_unready built failed
    · simp only [run, built, spawned, called, ended, verdict_eq_iff.mpr ruled]

/-- **A scenario does not come to its end exactly where its session is to end and is stuck.** -/
theorem run_eq_none_iff : plan.run body w = none ↔ Halted plan body w := by
  constructor
  · intro halted
    rcases built : plan.build w with ⟨fault | s, w₁⟩
    · simp [run, built] at halted
    rcases spawned : s.spawn w₁ with _ | ⟨fault | s₁, w₂⟩
    · obtain ⟨w', s', given, stuck⟩ := (s.spawn_eq_none_iff w₁).mp spawned
      exact .starting built given stuck
    · cases (run_of_unready built spawned).symm.trans halted
    · refine .ending built spawned ((Session.teardown_eq_none_iff _).mp ?_)
      rcases ended : (body w₂ s₁).2.2.teardown (body w₂ s₁).2.1 with _ | ⟨report, w'⟩
      · rfl
      · cases (run_of_ready built spawned ended).symm.trans halted
  · rintro (⟨built, given, stuck⟩ | ⟨built, spawned, stuck⟩)
    · simp only [run, built, (Session.spawn_eq_none_iff _ _).mpr ⟨_, _, given, stuck⟩]
    · simp only [run, built, spawned, (Session.teardown_eq_none_iff _).mpr stuck]

end SessionPlan

/-! ## How often the body is called, and its session torn down -/

/-- An entry on a call of the body, or on an attempt to remove a directory. -/
def Entry.isTurn : Entry → Bool
  | called | removed _ | kept _ => true
  | _ => false

/-- A session that goes on has made no turn. -/
theorem Alive.filter_isTurn {dir : Path} {ledger : List Entry} (h : Alive dir ledger) :
    ledger.filter Entry.isTurn = [] := by cases h <;> rfl

/-- …nor has one whose directory is all that is left. -/
theorem Settled.filter_isTurn {dir : Path} {ledger : List Entry} (h : Settled dir ledger) :
    ledger.filter Entry.isTurn = [] := by cases h <;> rfl

namespace Booked

/-- **The calls of the body, and the attempts to remove a directory**, the last first. -/
def turns {ω : Type} (n : Booked ω) : List Entry := n.ledger.filter Entry.isTurn

theorem turns_tryWait (n : Booked ω) (pid : Pid) : (Host.tryWait n pid).2.turns = n.turns := by
  rw [turns, ledger_tryWait, List.filter_append]
  rcases (Host.tryWait n pid).1 with _ | _ | _ <;> rfl

theorem turns_wait (n : Booked ω) (pid : Pid) : (Host.wait n pid).2.turns = n.turns := by
  rw [turns, ledger_wait]
  cases (Host.wait n pid).1 <;> rfl

theorem turns_removeTree (n : Booked ω) (dir : Path) :
    (Disk.removeTree n dir).2.turns = .removed dir :: n.turns
      ∨ (Disk.removeTree n dir).2.turns = .kept dir :: n.turns := by
  rw [turns, ledger_removeTree]
  cases (Disk.removeTree n dir).1 with
  | ok => exact .inl rfl
  | error => exact .inr rfl

end Booked

namespace Watched

theorem turns_tryExit (a : Watched (Booked ω)) : a.tryExit.2.host.turns = a.host.turns := by
  have asked := a.host.turns_tryWait a.child.pid
  rcases a.tryExit_cases with ⟨_, -, eq⟩ | ⟨-, ⟨_, -, eq⟩ | ⟨-, eq⟩ | ⟨_, -, eq⟩⟩ <;> rw [eq]
  · exact asked
  · exact asked
  · exact asked

theorem turns_signal (a : Watched (Booked ω)) (sent : Signal) :
    (a.signal sent).2.host.turns = a.host.turns := by
  rcases a.signal_cases sent with eq | ⟨-, eq⟩ <;> rw [eq]
  · exact a.turns_tryExit
  · exact a.turns_tryExit

theorem turns_wait (a : Watched (Booked ω)) : a.wait.2.host.turns = a.host.turns := by
  have waited := a.host.turns_wait a.child.pid
  rcases a.wait_cases with ⟨_, -, eq⟩ | ⟨-, ⟨_, -, eq⟩ | ⟨_, -, eq⟩⟩ <;> rw [eq]
  · exact waited
  · exact waited

theorem turns_pump (a : Watched (Booked ω)) : a.pump.2.host.turns = a.host.turns :=
  congrArg (List.filter Entry.isTurn) a.ledger_pump

/-- **The end of a child is no turn.** -/
theorem turns_terminate {a b : Watched (Booked ω)} {grace : Span} {answer : Option Exit × Bool}
    (ended : a.terminate grace = some (answer, b)) : b.host.turns = a.host.turns := by
  refine terminate_keeps (P := fun b : Watched (Booked ω) => b.host.turns = a.host.turns)
    (fun b sent same => (b.turns_signal sent).trans same) (fun b same => b.turns_pump.trans same)
    (fun b same => b.turns_wait.trans same) (fun b deadline left same => ?_) rfl ended
  exact awaitEnd_keeps (P := fun b : Watched (Booked ω) => b.host.turns = a.host.turns)
    (fun b same => b.turns_pump.trans same) (fun b same => b.turns_tryExit.trans same)
    (fun _ _ same => same) deadline left same

end Watched

/-- **A session that is torn down has its directory removed**, once and at the very end. -/
theorem Session.turns_teardown {s : Session} {n n' : Booked ω} {report : SessionReport}
    (torn : s.teardown n = some (report, n')) :
    n'.turns = .removed s.workDir :: n.turns ∨ n'.turns = .kept s.workDir :: n.turns := by
  have concluding {t : Session} {m : Booked ω} {exit : Option Exit} {forced : Bool}
      (same : m.turns = n.turns) (last : t.conclude m exit forced = (report, n')) :
      n'.turns = .removed t.workDir :: n.turns ∨ n'.turns = .kept t.workDir :: n.turns := by
    obtain ⟨n₁, kept, removed⟩ := t.exists_removeTree_of_conclude m exit forced
    have before : n₁.turns = n.turns := (congrArg (List.filter Entry.isTurn) kept).trans same
    rw [last] at removed
    rw [show n' = _ from removed, ← before]
    exact n₁.turns_removeTree t.workDir
  cases has : s.child with
  | none =>
    rw [teardown_of_none has, Option.some.injEq] at torn
    exact concluding rfl torn
  | some child =>
    rw [teardown_of_child has, Option.map_eq_some_iff] at torn
    obtain ⟨⟨⟨exit, forced⟩, b⟩, ended, last⟩ := torn
    exact concluding (t := s.after b) (Watched.turns_terminate ended) last

/-- A body that is entered in the books whenever it is called. -/
def ScenarioBody.booked {ω : Type} (body : ScenarioBody ω α β) : ScenarioBody (Booked ω) α β :=
  fun n s =>
    ((body n.host s).1, ⟨(body n.host s).2.1, .called :: n.ledger⟩, (body n.host s).2.2)

namespace SessionPlan

variable (plan : SessionPlan) (body : ScenarioBody ω α β) (w : ω)

/-- Keeping books about a scenario changes nothing. -/
theorem run_booked :
    plan.run body w = (plan.run body.booked (.blank w)).map (Prod.map id Booked.host) :=
  plan.run_map Booked.echoes (fun _ _ => rfl) (Booked.blank w)

variable {plan body w}

/-- **The body is called once, and then its session is torn down once**; or it is not called at
all. -/
theorem turns_of_staged {outcome : Except ScenarioFault (ScenarioOutput α)} {note : Option β}
    {n : Booked ω} (h : Staged plan body.booked (.blank w) outcome note n) :
    (note = none ∧ .called ∉ n.turns) ∨ (note ≠ none ∧ ∃ dir,
      n.turns = [.removed dir, .called] ∨ n.turns = [.kept dir, .called]) := by
  cases h with
  | unbuilt refused =>
    refine .inl ⟨rfl, ?_⟩
    rw [Booked.turns, ledger_of_build_error refused]
    exact List.not_mem_nil
  | @unready s _ n₁ _ built failed =>
    refine .inl ⟨rfl, ?_⟩
    rcases s.spawn_cases n₁ with ⟨_, _, _, _, _, -, -, -, ready⟩ | ⟨n', s', given⟩
    · nomatch failed.symm.trans ready
    obtain ⟨fault, spawned⟩ := given.spawn_eq
    rw [spawned, Session.failWith, Option.map_eq_some_iff] at failed
    obtain ⟨last, dropped, same⟩ := failed
    obtain rfl : last = n := congrArg Prod.snd same
    obtain ⟨m, settled, rfl⟩ := (owns_of_build built).cleared (.unready given) last dropped
    have before : m.turns = [] := settled.filter_isTurn
    rcases m.turns_removeTree s.workDir with removed | kept
    · simp [removed, before]
    · simp [kept, before]
  | performed performed _ =>
    obtain @⟨s, s₁, s₂, n₁, n₂, n₃, built, spawned, called, ended⟩ := performed
    refine .inr ⟨Option.some_ne_none _, s₂.workDir, ?_⟩
    have ready : s₁.Owns n₂ :=
      (owns_of_build built).step (x := (n₁, s)) (y := (n₂, s₁)) (.spawned spawned)
    obtain rfl := congrArg (·.2.1) called
    have acted : Booked.turns ⟨(body n₂.host s₁).2.1, .called :: n₂.ledger⟩ = [.called] :=
      congrArg (Entry.called :: ·) ready.alive.filter_isTurn
    rcases Session.turns_teardown ended with removed | kept
    · exact .inl (removed.trans (congrArg _ acted))
    · exact .inr (kept.trans (congrArg _ acted))

end SessionPlan

/-- The report that comes with the outcome of a scenario. -/
def reportOf? : Except ScenarioFault (ScenarioOutput α) → Option SessionReport
  | .ok output => some output.report
  | .error fault => fault.report?

theorem Ruled.reportOf?_eq {result : Except SessionFault α} {report : SessionReport}
    {outcome : Except ScenarioFault (ScenarioOutput α)} (h : Ruled result report outcome) :
    reportOf? outcome = some report := by cases h <;> rfl

/-- **What a scenario makes of its session**, whatever its plan, its body and the world.

* It comes to its end one of the ways that `Staged` names, and each of these is a scenario.  If the
  session does not become ready, the body is not called and there is no report; else the first that
  did not go well decides: the body, the end, the log.
* If books are kept, the body is entered exactly once, if it is called, and then its session is torn
  down: its directory is removed, once and at the very end.  The body's note is there exactly if the
  report is, which is that of this teardown.
* It passes exactly if the body did its work, the end was clean, and the marker of a critical line
  is nowhere in the log.
* It does not come to its end exactly where its session is to end and the clock cannot show the
  deadline for the child; then there is no report, though the body may have been called. -/
theorem SessionPlan.run_policy (plan : SessionPlan) (body : ScenarioBody ω α β) (w : ω) :
    (∀ outcome note w',
      plan.run body w = some ((outcome, note), w') ↔ Staged plan body w outcome note w')
    ∧ (plan.run body w = (plan.run body.booked (.blank w)).map (Prod.map id Booked.host)
      ∧ ∀ outcome note n, plan.run body.booked (.blank w) = some ((outcome, note), n) →
        (note = none ∧ reportOf? outcome = none ∧ .called ∉ n.turns)
        ∨ ∃ result value report dir, note = some value ∧ reportOf? outcome = some report
          ∧ Performed plan body w result value report n.host
          ∧ (n.turns = [.removed dir, .called] ∨ n.turns = [.kept dir, .called]))
    ∧ (∀ output note w', plan.run body w = some ((.ok output, some note), w')
      ↔ Performed plan body w (.ok output.value) note output.report w' ∧ output.report.clean = true
        ∧ ¬ "-CRITICAL **".toList <:+: output.report.stderr.toList)
    ∧ (plan.run body w = none ↔ Halted plan body w) := by
  refine ⟨fun outcome note w' => plan.run_eq_some_iff body w,
    ⟨plan.run_booked body w, fun outcome note n finished => ?_⟩, fun output note w' => ?_,
    plan.run_eq_none_iff body w⟩
  · have plain : plan.run body w = some ((outcome, note), n.host) := by
      rw [plan.run_booked body w, finished]
      rfl
    have turns := turns_of_staged ((plan.run_eq_some_iff body.booked _).mp finished)
    cases (plan.run_eq_some_iff body w).mp plain with
    | unbuilt | unready =>
      rcases turns with ⟨-, uncalled⟩ | ⟨noted, -⟩
      · exact .inl ⟨rfl, rfl, uncalled⟩
      · exact absurd rfl noted
    | performed performed ruled =>
      rcases turns with ⟨unnoted, -⟩ | ⟨-, dir, turns⟩
      · nomatch unnoted
      · exact .inr ⟨_, _, _, dir, rfl, ruled.reportOf?_eq, performed, turns⟩
  · rw [plan.run_eq_some_iff body w]
    constructor
    · intro passed
      cases passed with
      | performed performed ruled =>
        cases ruled with
        | passed done clean uncritical => exact ⟨done ▸ performed, clean, uncritical⟩
    · rintro ⟨performed, clean, uncritical⟩
      exact .performed performed (.passed rfl clean uncritical)

/-- The plan of a session whose child has the greatest grace that can be set. -/
def SessionPlan.patient : SessionPlan :=
  (Session.justBuilt.withGrace 0xFFFFFFFFFFFFFFFF).toSessionPlan

/-- Its settings pass their check, it becomes ready, and its body is called; but though the body
leaves all as it was, the scenario does not come to its end. -/
theorem SessionPlan.run_policy_patient :
    patient.settings.check = .ok () ∧ ∃ (s s₁ : Session) (w₁ w₂ : Scripted),
      patient.build .cutShort = (.ok s, w₁) ∧ s.spawn w₁ = some (.ok s₁, w₂)
      ∧ patient.run (fun w s => ((.ok (), ()), w, s)) Scripted.cutShort = none := by
  have accepted : patient.settings.check = .ok () := by decide +kernel
  have ready : ((patient.build Scripted.cutShort).1.toOption.bind fun s =>
      (s.spawn (patient.build Scripted.cutShort).2).bind fun r =>
        r.1.toOption.map fun s => s.child.isSome) = some true := by decide +kernel
  obtain ⟨s, answer, ready⟩ := Option.bind_eq_some_iff.mp ready
  obtain ⟨⟨_ | s₁, w₂⟩, spawned, ready⟩ := Option.bind_eq_some_iff.mp ready
  · nomatch ready
  have built : patient.build Scripted.cutShort = (.ok s, (patient.build Scripted.cutShort).2) := by
    rcases build : patient.build Scripted.cutShort with ⟨_ | s', w₁⟩
    all_goals rw [build] at answer
    · nomatch answer
    · rw [Option.some.inj answer]
  obtain ⟨child, has⟩ := Option.isSome_iff_exists.mp (Option.some.inj ready)
  have settings : s₁.settings = patient.settings := by
    have same : s₁.frame = s.frame := Session.frame_spawn spawned
    exact (congrArg (·.settings) same).trans (congrArg (·.settings) (of_build built).2.2)
  have stuck : s₁.Stuck w₂ := by
    refine ⟨child, has, ?_⟩
    rw [settings]
    have late := Span.limit_le_ofSeconds (n := 0xFFFFFFFFFFFFFFFF) (by decide)
    exact late.trans (Nat.le_add_left _ _)
  obtain ⟨-, -, -, halts⟩ :=
    SessionPlan.run_policy patient (fun w s => ((.ok (), ()), w, s)) Scripted.cutShort
  exact ⟨accepted, s, s₁, _, w₂, built, spawned, halts.mpr (.ending built spawned stuck)⟩

end NestedSession
