import NestedSession.Proofs.CommandLine.Running
import NestedSession.Proofs.CommandLine.Shown
import NestedSession.Proofs.Session.Policy
import NestedSession.Proofs.Session.Readiness
import NestedSession.Proofs.Settings.Validity
import NestedSession.Proofs.System.Scripted

/-!
# Proofs/CommandLine/Verdict — what becomes of a run

A run goes through its stages one after the other, and the first that does not go well decides
(`Judged`): the session has to become ready, each expectation has to be met, the end has to be clean
and the log without critical lines.  `Judged` names the code and the summary for each way through,
without a word about how the program carries them along.  Every way through is a run
(`Judged.runSession`), and a run on which nothing fails is one of them (`exists_judged`); so a run
gets the verdict that is named there, and no other (`runSession_judged`).
-/

namespace NestedSession

section

variable {ω : Type} [Host ω]

/-! ## The stages of a run -/

/-- **A session whose child was started**, and how its waiting to become ready ended. -/
inductive Started (plan : SessionPlan) (w : ω) : WaitOutcome → ω → Session → Prop
  | intro {s s' : Session} {child : Child} {w₁ w₂ w₃ : ω} {outcome : WaitOutcome}
      (built : plan.build w = (.ok s, w₁))
      (started : Child.start w₁ (s.launch.invocation s.childVariables) s.launch.program
        = (.ok child, w₂))
      (waited : ({ s with child := some child } : Session).waitForOutput w₂ s.readiness
        = (.ok outcome, w₃, s')) : Started plan w outcome w₃ s'

/-- **What becomes of a run**: the code that the program ends with, and the summary it shows. -/
inductive Judged (plan : SessionPlan) (requests : List WaitRequest) (w : ω) :
    Nat → Option RunSummary → ω → Prop
  /-- The child ended before the session was ready. -/
  | exited {exit : Exit} {w₁ w' : ω} {s : Session} (started : Started plan w (.exited exit) w₁ s)
      (ended : s.abandon w₁ = some w') : Judged plan requests w 3 none w'
  /-- The session did not become ready in time. -/
  | late {polls : UInt32} {w₁ w' : ω} {s : Session}
      (started : Started plan w (.timedOut polls) w₁ s)
      (ended : (s.lastStatus w₁).2.2.abandon (s.lastStatus w₁).2.1 = some w') :
      Judged plan requests w 3 none w'
  /-- An expectation is not met: those behind it are not waited for, and whatever the end is like
  does not matter. -/
  | unmet {polls : UInt32} {w₁ w₂ w₃ w' : ω} {s s₂ s₃ : Session} {met untried : List WaitRequest}
      {request : WaitRequest} {outcome : WaitOutcome} {report : SessionReport}
      (started : Started plan w (.satisfied polls) w₁ s)
      (split : requests = met ++ request :: untried) (before : Met w₁ s met w₂ s₂)
      (waited : s₂.waitForOutput w₂ request = (.ok outcome, w₃, s₃))
      (unmet : outcome.isSatisfied = false) (ended : s₃.teardown w₃ = some (report, w')) :
      Judged plan requests w 1 (some ⟨report, met.length, some (ScenarioFault.text
        (.body (.unmet (request.blamed s₃.capture).1 (request.blamed s₃.capture).2 outcome.text)
          report))⟩) w'
  /-- The end is not clean. -/
  | unclean {polls : UInt32} {w₁ w₂ w' : ω} {s s₂ : Session} {report : SessionReport}
      (started : Started plan w (.satisfied polls) w₁ s) (met : Met w₁ s requests w₂ s₂)
      (ended : s₂.teardown w₂ = some (report, w')) (unclean : report.clean = false) :
      Judged plan requests w 4
        (some ⟨report, requests.length, some (ScenarioFault.text (.abnormalExit report))⟩) w'
  /-- The log has critical lines. -/
  | critical {polls : UInt32} {w₁ w₂ w' : ω} {s s₂ : Session} {report : SessionReport}
      (started : Started plan w (.satisfied polls) w₁ s) (met : Met w₁ s requests w₂ s₂)
      (ended : s₂.teardown w₂ = some (report, w')) (clean : report.clean = true)
      (critical : report.IsCritical) :
      Judged plan requests w 4 (some ⟨report, requests.length,
        some (ScenarioFault.text (.criticalLines (report.graded .critical) report))⟩) w'
  /-- All went well. -/
  | passed {polls : UInt32} {w₁ w₂ w' : ω} {s s₂ : Session} {report : SessionReport}
      (started : Started plan w (.satisfied polls) w₁ s) (met : Met w₁ s requests w₂ s₂)
      (ended : s₂.teardown w₂ = some (report, w')) (clean : report.clean = true)
      (uncritical : ¬ report.IsCritical) :
      Judged plan requests w 0 (some ⟨report, requests.length, none⟩) w'

/-! ## Every way through is a run -/

/-- What the start comes to, by how the waiting ended. -/
theorem Started.spawn_eq {plan : SessionPlan} {w w₂ : ω} {outcome : WaitOutcome} {s : Session}
    (h : Started plan w outcome w₂ s) :
    ∃ s₀ w₁, plan.build w = (.ok s₀, w₁) ∧ s₀.spawn w₁ = match outcome with
      | .satisfied _ => some (.ok s, w₂)
      | .exited exit => s.failWith w₂ (s.startupFault exit.label)
      | .timedOut _ => (s.lastStatus w₂).2.2.failWith (s.lastStatus w₂).2.1
          ((s.lastStatus w₂).2.2.startupFault (s.lastStatus w₂).1) := by
  obtain @⟨s₀, _, child, w₁, w₂, _, _, built, started, waited⟩ := h
  have started : s₀.childStart w₁ = (.ok child, w₂) := started
  have waited : (s₀.having child).waitForOutput w₂ s₀.readiness = (.ok outcome, _, s) := waited
  refine ⟨s₀, w₁, built, ?_⟩
  simp only [Session.spawn_of_none (SessionPlan.of_build built).1, started, waited]
  cases outcome <;> rfl

/-- The expectations of a session that became ready, and its end. -/
theorem Started.run_eq {plan : SessionPlan} {requests : List WaitRequest} {w w₁ w₂ w' : ω}
    {polls : UInt32} {s s₂ : Session} (started : Started plan w (.satisfied polls) w₁ s)
    {result : Except SessionFault Unit} {count : ℕ}
    (met : meetAll w₁ s requests 0 = ((result, count), w₂, s₂)) {report : SessionReport}
    (ended : s₂.teardown w₂ = some (report, w')) :
    plan.run (fun w s => meetAll w s requests 0) w
      = some ((verdict result report, some count), w') := by
  obtain ⟨s₀, w₀, built, spawned⟩ := started.spawn_eq
  have ended' : (meetAll w₁ s requests 0).2.2.teardown (meetAll w₁ s requests 0).2.1
      = some (report, w') := by rw [met]; exact ended
  exact (SessionPlan.run_of_ready built spawned ended').trans (by rw [met])

/-- **Every way through is a run**, with its code and its summary. -/
theorem Judged.runSession {r : RunRequest} (unheld : r.hold = false) {settings : Settings}
    {ambient : Variables} {w w' : ω} {code : ℕ} {summary : Option RunSummary}
    (h : Judged (r.plan settings ambient) r.expectations w code summary w')
    (format : OutputFormat) (colours : Bool) (patience : ℕ) :
    ∃ o : CommandOutcome,
      NestedSession.runSession r settings ambient format colours patience w = some (o, w')
      ∧ o.exitCode = code ∧ o.shown = (summary.map fun s => s.render format colours).getD "" := by
  rw [NestedSession.runSession, RunRequest.body_eq unheld]
  cases h with
  | exited started ended =>
    obtain ⟨s₀, w₀, built, spawned⟩ := started.spawn_eq
    simp only [Session.failWith, ended, Option.map_some] at spawned
    rw [SessionPlan.run_of_unready built spawned]
    exact ⟨_, rfl, rfl, rfl⟩
  | late started ended =>
    obtain ⟨s₀, w₀, built, spawned⟩ := started.spawn_eq
    simp only [Session.failWith, ended, Option.map_some] at spawned
    rw [SessionPlan.run_of_unready built spawned]
    exact ⟨_, rfl, rfl, rfl⟩
  | unmet started split before waited unmet ended =>
    have met := (congrArg (meetAll _ _ · 0) split).trans
      ((before.meetAll_append ..).trans (meetAll_of_unmet waited unmet ..))
    rw [started.run_eq met ended, Nat.zero_add]
    exact ⟨_, rfl, rfl, rfl⟩
  | unclean started met ended unclean =>
    rw [started.run_eq (met.meetAll 0) ended, verdict_of_unclean unclean, Nat.zero_add]
    exact ⟨_, rfl, rfl, rfl⟩
  | critical started met ended clean critical =>
    rw [started.run_eq (met.meetAll 0) ended, verdict_of_critical clean critical, Nat.zero_add]
    exact ⟨_, rfl, rfl, rfl⟩
  | passed started met ended clean uncritical =>
    rw [started.run_eq (met.meetAll 0) ended, verdict_of_uncritical clean uncritical,
      Nat.zero_add]
    exact ⟨_, rfl, rfl, rfl⟩

/-- A run passed exactly if its code is 0. -/
theorem Judged.passed_iff {plan : SessionPlan} {requests : List WaitRequest} {w w' : ω} {code : ℕ}
    {summary : Option RunSummary} (h : Judged plan requests w code summary w') :
    ∀ s ∈ summary, (s.passed = true ↔ code = 0) := by
  cases h <;> simp [RunSummary.passed]

/-! ## Every run that nothing stops is a way through -/

/-- **The start of a session that was built**: there is no child, or its waiting to become ready
fails, or that ends. -/
theorem SessionPlan.spawn_cases {plan : SessionPlan} {w w₁ : ω} {s₀ : Session}
    (built : plan.build w = (.ok s₀, w₁)) :
    (∃ fault w₂, Child.start w₁ (s₀.launch.invocation s₀.childVariables) s₀.launch.program
        = (.error fault, w₂) ∧ s₀.spawn w₁ = s₀.failWith w₂ fault)
    ∨ (∃ child w₂ fault w₃ s, Session.waitForOutput { s₀ with child := some child } w₂ s₀.readiness
        = (.error fault, w₃, s) ∧ s₀.spawn w₁ = s.failWith w₃ fault)
    ∨ ∃ outcome w₂ s, Started plan w outcome w₂ s := by
  have spawned := Session.spawn_of_none (of_build built).1 w₁
  rcases started : s₀.childStart w₁ with ⟨fault | child, w₂⟩
  · exact .inl ⟨fault, w₂, started, by simp only [spawned, started]⟩
  rcases waited : (s₀.having child).waitForOutput w₂ s₀.readiness with ⟨fault | outcome, w₃, s⟩
  · exact .inr (.inl ⟨child, w₂, fault, w₃, s, waited, by simp only [spawned, started, waited]⟩)
  · exact .inr (.inr ⟨outcome, w₃, s, built, started, waited⟩)

/-- A session that was started has its child. -/
theorem Started.child {plan : SessionPlan} {w w₁ : ω} {outcome : WaitOutcome} {s : Session}
    (h : Started plan w outcome w₁ s) : s.child ≠ none := by
  obtain @⟨s₀, _, child, _, w₂, _, _, -, -, waited⟩ := h
  have kept := Session.child_waitForOutput (s := { s₀ with child := some child })
    (Option.some_ne_none child) w₂ s₀.readiness
  rwa [waited] at kept

/-- **A run on which nothing fails is a way through**, if it comes to its end. -/
theorem exists_judged {plan : SessionPlan} (sound : plan.settings.Sound)
    {requests : List WaitRequest} (tolerant : ∀ e ∈ requests, e.tolerant = true)
    {n₀ n : Marked ω} {x : Except ScenarioFault (ScenarioOutput Unit) × Option ℕ}
    (finished : plan.run (fun w s => meetAll w s requests 0) n₀ = some (x, n))
    (unfailing : n.failed = false) :
    ∃ code summary, Judged plan requests n₀ code summary n := by
  have unmarked : ¬ n.failed = true := Bool.eq_false_iff.mp unfailing
  rcases built : plan.build n₀ with ⟨fault | s₀, n₁⟩
  · -- no work directory: the mark is there at the end
    simp only [SessionPlan.run, built, Option.some.injEq, Prod.mk.injEq] at finished
    have marked := SessionPlan.failed_build (plan.settings.check_eq_ok_iff.mpr sound)
      (congrArg Prod.fst built)
    rw [built, finished.2] at marked
    exact absurd marked unmarked
  obtain ⟨-, empty, -⟩ := SessionPlan.of_build built
  rcases SessionPlan.spawn_cases built with ⟨fault, n₂, started, spawned⟩
    | ⟨child, n₂, fault, n₃, s, waited, spawned⟩ | ⟨outcome, n₂, s, started⟩
  · -- no child
    have marked := Child.failed_start (congrArg Prod.fst started)
    rw [started] at marked
    exact absurd (Marked.keeps.abandon marked (SessionPlan.abandon_of_run built finished spawned))
      unmarked
  · -- the waiting to become ready fails
    have checked := Session.check_readiness (SessionPlan.sound_of_build built) empty
    have marked := Session.failed_waitForOutput (s := { s₀ with child := some child })
      (Option.some_ne_none child) checked (congrArg Prod.fst waited)
    rw [waited] at marked
    exact absurd (Marked.keeps.abandon marked (SessionPlan.abandon_of_run built finished spawned))
      unmarked
  obtain ⟨_, _, built', spawned⟩ := started.spawn_eq
  obtain ⟨rfl, rfl⟩ : s₀ = _ ∧ n₁ = _ := by simpa [built] using built'
  cases outcome with
  | exited exit =>
    exact ⟨3, none, .exited started (SessionPlan.abandon_of_run built finished spawned)⟩
  | timedOut polls =>
    exact ⟨3, none, .late started (SessionPlan.abandon_of_run built finished spawned)⟩
  | satisfied polls =>
    obtain ⟨report, ended⟩ := SessionPlan.teardown_of_run built finished spawned
    obtain ⟨met, n₃, s₃, before, rfl | ⟨request, untried, split, unmet⟩⟩ :=
      exists_met n₂ s requests
    · rw [before.meetAll 0] at ended
      cases clean : report.clean with
      | false => exact ⟨4, _, .unclean started before ended clean⟩
      | true =>
        by_cases critical : report.IsCritical
        · exact ⟨4, _, .critical started before ended clean critical⟩
        · exact ⟨0, _, .passed started before ended clean critical⟩
    rw [split, before.meetAll_append] at ended
    rcases waited : s₃.waitForOutput n₃ request with ⟨fault | outcome, n₄, s₄⟩
    · -- the waiting for an expectation fails
      have checked := request.check_of_tolerant (tolerant request (by simp [split])) s₃.capture
      have marked := Session.failed_waitForOutput (before.child started.child) checked
        (congrArg Prod.fst waited)
      rw [waited] at marked
      rw [meetAll_of_failed waited] at ended
      exact absurd (Marked.keeps.teardown marked ended) unmarked
    · have unsatisfied : outcome.isSatisfied = false := by
        cases outcome with
        | satisfied polls => exact absurd waited (unmet polls n₄ s₄)
        | exited _ | timedOut _ => rfl
      rw [meetAll_of_unmet waited unsatisfied] at ended
      exact ⟨1, _, .unmet started split before waited unsatisfied ended⟩

end

/-! ## The same way through on hosts that answer alike -/

section

variable {ω' ω : Type} [Host ω'] [Host ω] {f : ω' → ω} (h : Host.Echoes f) {plan : SessionPlan}
  {requests : List WaitRequest} {w w' : ω'}
include h

theorem Started.map {outcome : WaitOutcome} {s : Session} (started : Started plan w outcome w' s) :
    Started plan (f w) outcome (f w') s := by
  obtain ⟨built, started, waited⟩ := started
  exact .intro ((plan.build_map h w).trans (congrArg (Prod.map id f) built))
    ((Child.start_map h ..).trans (congrArg (Prod.map id f) started))
    ((Session.waitForOutput_map h ..).trans (congrArg (Prod.map id (Prod.map f id)) waited))

/-- **The way through is the same** on both. -/
theorem Judged.map {code : ℕ} {summary : Option RunSummary}
    (judged : Judged plan requests w code summary w') :
    Judged plan requests (f w) code summary (f w') := by
  have given {s : Session} {w : ω'} (ended : s.abandon w = some w') :
      s.abandon (f w) = some (f w') := by
    rw [Session.abandon_map h.toMirrors, ended, Option.map_some]
  have torn {s : Session} {w : ω'} {report : SessionReport}
      (ended : s.teardown w = some (report, w')) : s.teardown (f w) = some (report, f w') := by
    rw [Session.teardown_map h.toMirrors, ended]
    rfl
  cases judged with
  | exited started ended => exact .exited (started.map h) (given ended)
  | late started ended =>
    refine .late (started.map h) ?_
    rw [Session.lastStatus_map h]
    exact given ended
  | unmet started split before waited unmet ended =>
    refine .unmet (started.map h) split (before.map h) ?_ unmet (torn ended)
    rw [Session.waitForOutput_map h, waited]
    rfl
  | unclean started met ended unclean =>
    exact .unclean (started.map h) (met.map h) (torn ended) unclean
  | critical started met ended clean critical =>
    exact .critical (started.map h) (met.map h) (torn ended) clean critical
  | passed started met ended clean uncritical =>
    exact .passed (started.map h) (met.map h) (torn ended) clean uncritical

end

/-! ## The verdict -/

/-- The expectations of a run: each of one marker, those on standard output first. -/
theorem RunRequest.markers_expectations (r : RunRequest) :
    r.expectations.map WaitRequest.markers
      = r.expectStdout.map (fun m => [(Stream.stdout, m)])
        ++ r.expectStderr.map fun m => [(Stream.stderr, m)] := by
  simp [expectations, WaitRequest.markers, Function.comp_def]

theorem RunRequest.of_mem_expectations {r : RunRequest} {e : WaitRequest}
    (h : e ∈ r.expectations) : e.tolerant = true ∧ e.timeout = r.timeout.map Span.ofSeconds := by
  simp only [expectations, List.mem_append, List.mem_map] at h
  rcases h with ⟨m, -, rfl⟩ | ⟨m, -, rfl⟩ <;> exact ⟨rfl, rfl⟩

/-- A run that comes to its end is a scenario that does. -/
theorem RunRequest.run_of_runSession {ω : Type} [Host ω] {r : RunRequest} {settings : Settings}
    {ambient : Variables} {format : OutputFormat} {colours : Bool} {patience : ℕ} {w w' : ω}
    {o : CommandOutcome}
    (finished : runSession r settings ambient format colours patience w = some (o, w')) :
    ∃ x, (r.plan settings ambient).run (r.body patience) w = some (x, w') := by
  rw [runSession] at finished
  split at finished
  · cases finished
  · next ended =>
    cases finished
    exact ⟨_, ended⟩
  · next ended =>
    cases finished
    exact ⟨_, ended⟩

/-- **The verdict on a run.**  Let a run that is not held, with settings that pass their check, come
to its end, and let no call fail that it cannot do without.

* It goes one of the ways that `Judged` names.
* Whichever that is, the run ends with the code and shows the summary that are named there, or shows
  nothing if none is named; and it has passed exactly if the code is 0.
* A summary is shown as what it is: to a person in lines, of which the first tells whether the run
  passed and the fourth how many expectations were met, and to a program as an object with these two
  and the other parts of the summary for its entries.
* What is expected is waited for one by one: the markers on standard output in their order, then
  those on standard error in theirs, each alone, with the same timeout, and though it may be there
  already. -/
theorem runSession_judged {ω : Type} [Host ω] {r : RunRequest} (unheld : r.hold = false)
    {settings : Settings} (accepted : settings.check = .ok ()) {ambient : Variables}
    {format : OutputFormat} {colours : Bool} {patience : ℕ} {w : ω} {o : CommandOutcome}
    {n : Marked ω}
    (finished : runSession r settings ambient format colours patience (Marked.blank w)
      = some (o, n))
    (unfailing : n.failed = false) :
    (∃ code summary, Judged (r.plan settings ambient) r.expectations w code summary n.host)
    ∧ (∀ code summary w', Judged (r.plan settings ambient) r.expectations w code summary w' →
      runSession r settings ambient format colours patience w = some (o, w')
      ∧ o.exitCode = code ∧ o.shown = (summary.map fun s => s.render format colours).getD ""
      ∧ ∀ s ∈ summary, (s.passed = true ↔ code = 0) ∧ s.ShownAs colours o.shown format)
    ∧ (∀ e ∈ r.expectations, e.tolerant = true ∧ e.timeout = r.timeout.map Span.ofSeconds)
    ∧ r.expectations.map WaitRequest.markers
      = r.expectStdout.map (fun m => [(Stream.stdout, m)])
        ++ r.expectStderr.map fun m => [(Stream.stderr, m)] := by
  have plain : runSession r settings ambient format colours patience w = some (o, n.host) := by
    have same := runSession_map Marked.echoes r settings ambient format colours patience
      (Marked.blank w)
    rwa [finished] at same
  refine ⟨?_, fun code summary w' judged => ?_, fun e h => r.of_mem_expectations h,
    r.markers_expectations⟩
  · obtain ⟨x, run⟩ := r.run_of_runSession finished
    rw [r.body_eq unheld] at run
    obtain ⟨code, summary, judged⟩ := exists_judged (settings.check_eq_ok_iff.mp accepted).session
      (fun e h => (r.of_mem_expectations h).1) run unfailing
    exact ⟨code, summary, judged.map Marked.echoes⟩
  · obtain ⟨o', run, code, shown⟩ := judged.runSession unheld format colours patience
    obtain ⟨rfl, rfl⟩ := Prod.mk.inj (Option.some.inj (plain.symm.trans run))
    refine ⟨plain, code, shown, fun s named => ⟨judged.passed_iff s named, ?_⟩⟩
    obtain rfl : summary = some s := named
    rw [shown]
    exact s.shownAs_render format colours

/-- A process that becomes ready, complains, and stays as it is. -/
def Scripted.locked : Scripted :=
  idle
    [[.write .stderr (Utf8.encode "Phosh ready after 1s\n")],
      [.write .stderr (Utf8.encode "(phosh:7): GLib-CRITICAL **: oops\n"),
        .write .stdout (Utf8.encode "locked\n")]]

/-- Three expectations, of which the second is not met. -/
def RunRequest.unlocking : RunRequest where
  sourceDir := []
  buildDir := Utf8.encode "build"
  expectStdout := ["locked", "unlocked"]
  expectStderr := ["ready"]
  timeout := some 1

/-- A child has to end within a second. -/
def Settings.brief : Settings := { session := { shutdownTimeoutSecs := 1 } }

/-- What such a run shows to a person. -/
def Scripted.lockedText : String :=
  "Session: FAILED\n  Exit status: signal 9\n  Teardown: unclean (killed)\n"
    ++ "  Expectations met: 1\n  Critical lines:\n    (phosh:7): GLib-CRITICAL **: oops\n"
    ++ "  Error: scenario body failed: expected \"unlocked\" on stdout: timed out after 2 poll(s)\n"

/-- What such a run shows to a program. -/
def Scripted.lockedJson : String :=
  "\x7b\n  \"passed\": false,\n  \"exit\": \"signal 9\",\n  \"clean\": false,\n"
    ++ "  \"forced\": true,\n  \"expectations_met\": 1,\n"
    ++ "  \"critical_lines\": [\n    \"(phosh:7): GLib-CRITICAL **: oops\"\n  ],\n"
    ++ "  \"warning_lines\": [],\n  \"error\": \"scenario body failed: "
    ++ "expected \\\"unlocked\\\" on stdout: timed out after 2 poll(s)\"\n\x7d\n"

/-- It fails for what is not met, though its end is not clean and its log has a critical line; and
says so in either format. -/
theorem runSession_judged_locked :
    (∃ (o : CommandOutcome) (w' : Scripted),
      runSession .unlocking .brief .empty .text false 0 Scripted.locked = some (o, w')
      ∧ (∃ summary, Judged (RunRequest.unlocking.plan .brief .empty)
        RunRequest.unlocking.expectations Scripted.locked 1 summary w')
      ∧ o.exitCode = 1 ∧ o.shown = Scripted.lockedText)
    ∧ ∃ (o : CommandOutcome) (w' : Scripted),
      runSession .unlocking .brief .empty .json false 0 Scripted.locked = some (o, w')
      ∧ (∃ summary, Judged (RunRequest.unlocking.plan .brief .empty)
        RunRequest.unlocking.expectations Scripted.locked 1 summary w')
      ∧ o.exitCode = 1 ∧ o.shown = Scripted.lockedJson
      ∧ (Json.parse? o.shown).map (fun value =>
          ((value.member "passed").pretty, (value.member "expectations_met").pretty))
        = some ("false", "1") := by
  have sound : Settings.brief.Sound :=
    ⟨by decide, by decide,
      ⟨⟨'p', by decide, by decide⟩, by decide, by decide, by decide +kernel, by decide⟩, nofun⟩
  -- what is seen of a run, and that nothing fails on it
  let seen (format : OutputFormat) :=
    (runSession .unlocking .brief .empty format false 0 (Marked.blank Scripted.locked)).map
      fun x => (x.2.failed, x.1.exitCode, x.1.shown)
  have judged {format : OutputFormat} {text : String} (run : seen format = some (false, 1, text)) :
      ∃ (o : CommandOutcome) (w' : Scripted),
        runSession .unlocking .brief .empty format false 0 Scripted.locked = some (o, w')
        ∧ (∃ summary, Judged (RunRequest.unlocking.plan .brief .empty)
          RunRequest.unlocking.expectations Scripted.locked 1 summary w')
        ∧ o.exitCode = 1 ∧ o.shown = text := by
    obtain ⟨⟨o, n⟩, finished, eq⟩ := Option.map_eq_some_iff.mp run
    simp only [Prod.mk.injEq] at eq
    obtain ⟨unfailing, code, shown⟩ := eq
    obtain ⟨⟨code', summary, way⟩, every, -⟩ :=
      runSession_judged rfl (Settings.brief.check_eq_ok_iff.mpr sound) finished unfailing
    obtain ⟨plain, code'', -⟩ := every _ _ _ way
    obtain rfl : code' = 1 := code''.symm.trans code
    exact ⟨o, n.host, plain, ⟨summary, way⟩, code, shown⟩
  have text : seen .text = some (false, 1, Scripted.lockedText) := by decide +kernel
  have json : seen .json = some (false, 1, Scripted.lockedJson) := by decide +kernel
  refine ⟨judged text, ?_⟩
  obtain ⟨o, w', run, way, code, shown⟩ := judged json
  refine ⟨o, w', run, way, code, shown, ?_⟩
  rw [shown]
  decide +kernel

end NestedSession
