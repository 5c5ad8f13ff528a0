import NestedSession.Proofs.Session.Freshness

/-!
# Proofs/Session/Blaming — which marker an expectation blames

An expectation that is not met blames a marker by what was captured when its waiting was over
(`WaitRequest.Blames`).  A waiting whose time is over has just looked in vain, so a marker is
missing then (`pollUntil_unmet`).  A child's end is another matter: its last output may hold all
that was missing, and then the first marker takes the blame although it shows.
-/

namespace NestedSession

/-- **A marker shows** in an output: the text of the output has it in one piece. -/
def Capture.Shows (c : Capture) (m : Stream × String) : Prop :=
  m.2.toList <:+: (c.text m.1).toList

theorem Capture.contains_iff_shows {c : Capture} {m : Stream × String} :
    c.contains m.1 m.2 = true ↔ c.Shows m := by
  rw [contains, Text.contains, Text.occurs_iff, Shows]

namespace WaitRequest

variable {r : WaitRequest} {c : Capture} {m : Stream × String} {outcome : WaitOutcome}

/-- **The first marker that is missing**: it does not show, and all before it do. -/
def FirstMissing (r : WaitRequest) (c : Capture) (m : Stream × String) : Prop :=
  ∃ front back, r.markers = front ++ m :: back ∧ (∀ shown ∈ front, c.Shows shown) ∧ ¬ c.Shows m

/-- **Which marker takes the blame** for an outcome without success. -/
inductive Blames (r : WaitRequest) (c : Capture) : WaitOutcome → Stream × String → Prop
  /-- The time is over. -/
  | timedOut {polls : UInt32} {m : Stream × String} (missing : r.FirstMissing c m) :
      Blames r c (.timedOut polls) m
  /-- The child has ended. -/
  | exited {exit : Exit} {m : Stream × String} (missing : r.FirstMissing c m) :
      Blames r c (.exited exit) m
  /-- The child has ended, and its last output showed what was missing. -/
  | late {exit : Exit} {m : Stream × String} {others : List (Stream × String)}
      (first : r.markers = m :: others) (shown : ∀ m ∈ r.markers, c.Shows m) :
      Blames r c (.exited exit) m
  /-- The child has ended, and no marker was asked for. -/
  | nothing {exit : Exit} (none : r.markers = []) : Blames r c (.exited exit) (.stderr, "")

theorem isMet_iff : r.isMet c = true ↔ ∀ m ∈ r.markers, c.Shows m := by
  simp only [isMet, List.all_eq_true, Capture.contains_iff_shows]

theorem find?_eq_some_iff :
    r.markers.find? (fun (stream, marker) => !c.contains stream marker) = some m
      ↔ r.FirstMissing c m := by
  have missing (m : Stream × String) : (!c.contains m.1 m.2) = true ↔ ¬ c.Shows m := by
    rw [Bool.not_eq_true', ← Bool.not_eq_true, Capture.contains_iff_shows]
  constructor
  · intro found
    obtain ⟨this, front, back, split, before⟩ := List.find?_eq_some_iff_append.mp found
    refine ⟨front, back, split, fun shown mem => ?_, (missing m).mp this⟩
    exact Capture.contains_iff_shows.mp (by simpa using before shown mem)
  · rintro ⟨front, back, split, before, this⟩
    refine List.find?_eq_some_iff_append.mpr ⟨(missing m).mpr this, front, back, split, ?_⟩
    intro shown mem
    simpa using Capture.contains_iff_shows.mpr (before shown mem)

/-- Where a marker is missing, one is the first. -/
theorem exists_firstMissing (unmet : r.isMet c = false) : ∃ m, r.FirstMissing c m := by
  obtain ⟨m, mem, absent⟩ := List.all_eq_false.mp unmet
  obtain ⟨first, found⟩ : ∃ first,
      r.markers.find? (fun (stream, marker) => !c.contains stream marker) = some first := by
    rw [← Option.isSome_iff_exists, List.find?_isSome]
    exact ⟨m, mem, by simpa using absent⟩
  exact ⟨first, find?_eq_some_iff.mp found⟩

theorem FirstMissing.mem (h : r.FirstMissing c m) : m ∈ r.markers := by
  obtain ⟨front, back, split, -⟩ := h
  exact split ▸ List.mem_append_right front List.mem_cons_self

/-- The marker that is blamed is the first that is missing, if one is. -/
theorem blamed_of_firstMissing (h : r.FirstMissing c m) : r.blamed c = m := by
  rw [blamed, find?_eq_some_iff.mpr h]

/-- Where none is missing, it is the first of all. -/
theorem blamed_of_isMet (met : r.isMet c = true) : r.blamed c = r.markers.headD (.stderr, "") := by
  have none : r.markers.find? (fun (stream, marker) => !c.contains stream marker) = none := by
    rw [List.find?_eq_none]
    intro m mem missing
    simp [List.all_eq_true.mp met m mem] at missing
  rw [blamed, none]

/-- **Who is blamed after an end** of the child. -/
theorem blames_exited_iff {exit : Exit} : r.Blames c (.exited exit) m ↔ r.blamed c = m := by
  constructor
  · rintro (_ | missing | ⟨first, shown⟩ | none)
    · exact blamed_of_firstMissing missing
    · rw [blamed_of_isMet (isMet_iff.mpr shown), first, List.headD_cons]
    · have met : r.isMet c = true := isMet_iff.mpr (by simp [none])
      rw [blamed_of_isMet met, none, List.headD_nil]
  · rintro rfl
    cases met : r.isMet c with
    | false =>
      obtain ⟨m, missing⟩ := exists_firstMissing met
      exact blamed_of_firstMissing missing ▸ .exited missing
    | true =>
      rw [blamed_of_isMet met]
      cases asked : r.markers with
      | nil => exact .nothing asked
      | cons m others => exact .late asked (isMet_iff.mp met)

/-- **Who is blamed when the time is over**, if a marker is missing then. -/
theorem blames_timedOut_iff {polls : UInt32} (unmet : r.isMet c = false) :
    r.Blames c (.timedOut polls) m ↔ r.blamed c = m := by
  obtain ⟨first, missing⟩ := exists_firstMissing unmet
  constructor
  · rintro ⟨found⟩
    exact blamed_of_firstMissing found
  · rintro rfl
    exact blamed_of_firstMissing missing ▸ .timedOut missing

end WaitRequest

/-- **A waiting whose time is over** ended with a look in vain. -/
theorem pollUntil_unmet {σ : Type} {src : Source σ} {request : WaitRequest}
    {interval remaining : Span} {polls count : UInt32} {s s' : σ}
    (waitedOut : pollUntil src request interval remaining polls s = (.ok (.timedOut count), s')) :
    request.isMet (src.capture s') = false := by
  fun_induction pollUntil src request interval remaining polls s with
  | case1 | case2 | case3 | case4 | case5 => cases waitedOut
  | case6 _ _ _ _ _ _ _ unmet =>
    obtain rfl := congrArg Prod.snd waitedOut
    exact Bool.eq_false_iff.mpr unmet
  | case7 _ _ _ _ _ _ _ _ _ _ _ ih => exact ih waitedOut

variable {ω : Type} [Host ω]

namespace Session

variable {s s' : Session} {w w' : ω} {request : WaitRequest} {outcome : WaitOutcome}

/-- A session whose time is over has captured no more than the last look did. -/
theorem unmet_of_waitForOutput {polls : UInt32}
    (waitedOut : s.waitForOutput w request = (.ok (.timedOut polls), w', s')) :
    request.isMet s'.capture = false := by
  cases has : s.child with
  | none => nomatch (waitForOutput_of_none has w request).symm.trans waitedOut
  | some child =>
    cases checked : request.check s.capture with
    | error fault => nomatch (waitForOutput_of_refused has checked w).symm.trans waitedOut
    | ok _ =>
      obtain ⟨answer, x, polled, waited⟩ := waitForOutput_of_child has checked w
      obtain ⟨rfl, -, rfl⟩ := by simpa only [Prod.mk.injEq] using waited.symm.trans waitedOut
      have unmet := pollUntil_unmet polled
      exact unmet

/-- **An expectation blames whom its outcome does.** -/
theorem expectOutput_of_outcome (waited : s.waitForOutput w request = (.ok outcome, w', s')) :
    (∃ polls, outcome = .satisfied polls ∧ s.expectOutput w request = (.ok outcome, w', s'))
    ∨ ∃ stream marker, (∀ m, request.Blames s'.capture outcome m ↔ (stream, marker) = m)
      ∧ s.expectOutput w request = (.error (.unmet stream marker outcome.text), w', s') := by
  rw [expectOutput, waited]
  cases outcome with
  | satisfied polls => exact .inl ⟨polls, rfl, rfl⟩
  | exited exit => exact .inr ⟨_, _, fun m => WaitRequest.blames_exited_iff, rfl⟩
  | timedOut polls =>
    exact .inr ⟨_, _, fun m => WaitRequest.blames_timedOut_iff (unmet_of_waitForOutput waited), rfl⟩

/-- An expectation that blames a marker is a waiting without success. -/
theorem of_expectOutput_unmet {stream : Stream} {marker text : String}
    (failed : s.expectOutput w request = (.error (.unmet stream marker text), w', s')) :
    ∃ outcome, s.waitForOutput w request = (.ok outcome, w', s') ∧ text = outcome.text
      ∧ request.Blames s'.capture outcome (stream, marker) := by
  have same : (s.waitForOutput w request).2 = (w', s') := by rw [← expectOutput_snd, failed]
  rcases waited : (s.waitForOutput w request).1 with fault | outcome
  · -- A fault of the waiting is passed on, and it is never this one.
    have passed : s.expectOutput w request = (.error fault, w', s') := by
      rw [expectOutput, show s.waitForOutput w request = (.error fault, w', s') from
        Prod.ext waited same]
    obtain rfl : fault = .unmet stream marker text := by
      simpa using passed.symm.trans failed
    simpa using fault_of_waitForOutput waited
  · have waited : s.waitForOutput w request = (.ok outcome, w', s') := Prod.ext waited same
    obtain ⟨polls, -, met⟩ | ⟨stream', marker', blames, eq⟩ := expectOutput_of_outcome waited
    · cases met.symm.trans failed
    · obtain ⟨rfl, rfl, rfl⟩ : stream' = stream ∧ marker' = marker ∧ outcome.text = text := by
        simpa using eq.symm.trans failed
      exact ⟨outcome, waited, rfl, (blames _).mpr rfl⟩

/-- **An expectation blames the right marker**, for every session, request and child.

* It fails with a marker to blame exactly when its waiting was without success and the marker takes
  the blame by what is captured then: the first that is missing, when the time is over; the same
  after an end of the child, unless its last output leaves none missing.
* If it succeeds, its waiting was satisfied, and every marker shows.
* Where no marker was asked for, only an end of the child makes it fail so. -/
theorem expectOutput_blames (s : Session) (w : ω) (request : WaitRequest) :
    (∀ stream marker text w' s',
      s.expectOutput w request = (.error (.unmet stream marker text), w', s')
      ↔ ∃ outcome, s.waitForOutput w request = (.ok outcome, w', s') ∧ text = outcome.text
        ∧ request.Blames s'.capture outcome (stream, marker))
    ∧ (∀ outcome w' s', s.expectOutput w request = (.ok outcome, w', s') →
      ∃ polls, outcome = .satisfied polls ∧ ∀ m ∈ request.markers, s'.capture.Shows m)
    ∧ (request.markers = [] → ∀ stream marker text w' s',
      s.expectOutput w request = (.error (.unmet stream marker text), w', s') →
      ∃ exit, s.waitForOutput w request = (.ok (.exited exit), w', s')
        ∧ text = (WaitOutcome.exited exit).text) := by
  refine ⟨fun stream marker text w' s' => ⟨of_expectOutput_unmet, ?_⟩,
    fun outcome w' s' met => ?_, fun none stream marker text w' s' failed => ?_⟩
  · rintro ⟨outcome, waited, rfl, blamed⟩
    obtain ⟨polls, rfl, -⟩ | ⟨stream', marker', blames, eq⟩ := expectOutput_of_outcome waited
    · nomatch blamed
    · obtain ⟨rfl, rfl⟩ := Prod.mk.inj ((blames _).mp blamed)
      exact eq
  · obtain ⟨waited, satisfied⟩ := waitForOutput_of_expectOutput met
    cases outcome with
    | satisfied polls =>
      exact ⟨polls, rfl, WaitRequest.isMet_iff.mp (of_waitForOutput waited).2.2⟩
    | exited | timedOut => nomatch satisfied
  · obtain ⟨outcome, waited, rfl, blamed⟩ := of_expectOutput_unmet failed
    cases blamed with
    | timedOut missing => nomatch none ▸ missing.mem
    | exited | late | nothing => exact ⟨_, waited, rfl⟩

/-- A child that writes one marker early, and another as it ends. -/
def farewell : Scripted × Session :=
  (.idle [[.write .stderr (Utf8.encode "b")], [], [], [],
    [.write .stdout (Utf8.encode "a"), .exit 0 []]], justBuilt.having (.fresh 7))

/-- The early one is found.  Both are not, although they show in the end, and the first is blamed;
and after the end nothing is found, not even if nothing is asked for. -/
theorem expectOutput_blames_farewell :
    (∃ y : Scripted × Session,
      farewell.2.expectOutput farewell.1 { stderr := some "b" } = (.ok (.satisfied 1), y)
      ∧ y.2.capture.Shows (.stderr, "b"))
    ∧ ∃ y : Scripted × Session,
      farewell.2.expectOutput farewell.1 { stdout := some "a", stderr := some "b" }
        = (.error (.unmet .stdout "a" "process exited (exit status: 0)"), y)
      ∧ (∃ outcome, WaitRequest.Blames { stdout := some "a", stderr := some "b" } y.2.capture
          outcome (.stdout, "a"))
      ∧ y.2.capture.contains .stdout "a" = true
      ∧ (y.2.expectOutput y.1 {}).1
        = .error (.unmet .stderr "" "process exited (exit status: 0)")
      ∧ ∃ exit, (y.2.waitForOutput y.1 {}).1 = .ok (.exited exit) := by
  have found : (farewell.2.expectOutput farewell.1 { stderr := some "b" }).1
      = .ok (.satisfied 1) := by decide +kernel
  obtain ⟨y, ended⟩ : ∃ y, (farewell.2.expectOutput farewell.1
    { stdout := some "a", stderr := some "b" }).2 = y := ⟨_, rfl⟩
  have late : (farewell.2.expectOutput farewell.1 { stdout := some "a", stderr := some "b" }).1
      = .error (.unmet .stdout "a" "process exited (exit status: 0)") := by decide +kernel
  have unasked : (y.2.expectOutput y.1 {}).1
      = .error (.unmet .stderr "" "process exited (exit status: 0)") := by
    rw [← ended]
    decide +kernel
  obtain ⟨_, _, shown⟩ :=
    (expectOutput_blames farewell.2 farewell.1 { stderr := some "b" }).2.1 _ _ _
      (Prod.ext found rfl)
  obtain ⟨outcome, -, -, blamed⟩ :=
    ((expectOutput_blames farewell.2 farewell.1 { stdout := some "a", stderr := some "b" }).1
      _ _ _ _ _).mp (Prod.ext late ended)
  obtain ⟨exit, waited, -⟩ :=
    (expectOutput_blames y.2 y.1 {}).2.2 rfl _ _ _ _ _ (Prod.ext unasked rfl)
  refine ⟨⟨_, Prod.ext found rfl, shown (.stderr, "b") (by decide)⟩,
    y, Prod.ext late ended, ⟨outcome, blamed⟩, ?_, unasked, exit,
    congrArg Prod.fst waited⟩
  rw [← ended]
  decide +kernel

end Session

end NestedSession
