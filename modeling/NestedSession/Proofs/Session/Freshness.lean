import NestedSession.Proofs.Session.Capturing

/-!
# Proofs/Session/Freshness — output is waited for once

A waiting is satisfied at the moment its last marker shows, and nothing that was captured is taken
back (`Session.reads_of_course`).  So what was found once is found already by every later waiting
(`Session.Found.isMet`): one that wants its markers fresh is refused, and one that does not takes a
single look (`Watched.Glance`).
-/

namespace NestedSession

variable {ω : Type} [Host ω]

/-- Markers that all show once do so from then on. -/
theorem Capture.Grows.isMet {c d : Capture} (h : c.Grows d) {request : WaitRequest}
    (met : request.isMet c = true) : request.isMet d = true := by
  rw [WaitRequest.isMet, List.all_eq_true] at met ⊢
  exact fun marker asked => h.contains (met marker asked)

/-! ## A waiting that was satisfied -/

/-- A waiting that was satisfied ended with a look that shows every marker. -/
theorem pollUntil_isMet {σ : Type} {src : Source σ} {request : WaitRequest}
    {interval remaining : Span} {polls count : UInt32} {s s' : σ}
    (found : pollUntil src request interval remaining polls s = (.ok (.satisfied count), s')) :
    request.isMet (src.capture s') = true := by
  fun_induction pollUntil src request interval remaining polls s with
  | case1 | case2 | case3 | case4 | case6 => cases found
  | case5 _ _ _ _ _ _ _ _ met =>
    obtain rfl := congrArg Prod.snd found
    exact met
  | case7 _ _ _ _ _ _ _ _ _ _ _ ih => exact ih found

namespace Session

variable {s s' : Session} {w w' : ω} {request : WaitRequest} {polls : UInt32}

/-- **A waiting that was satisfied** had not been refused; at its end there is a child, and every
marker shows. -/
theorem of_waitForOutput (found : s.waitForOutput w request = (.ok (.satisfied polls), w', s')) :
    request.check s.capture = .ok () ∧ s'.child ≠ none ∧ request.isMet s'.capture = true := by
  cases has : s.child with
  | none => nomatch (waitForOutput_of_none has w request).symm.trans found
  | some child =>
    cases checked : request.check s.capture with
    | error fault => nomatch (waitForOutput_of_refused has checked w).symm.trans found
    | ok _ =>
      obtain ⟨answer, x, polled, waited⟩ := waitForOutput_of_child has checked w
      obtain ⟨rfl, -, rfl⟩ := by simpa only [Prod.mk.injEq] using waited.symm.trans found
      have met := pollUntil_isMet polled
      exact ⟨rfl, Option.some_ne_none x.child, met⟩

/-- A request that may find nothing there already, and is not refused, finds nothing. -/
theorem absent_of_check {c : Capture} (strict : request.tolerant = false)
    (checked : request.check c = .ok ()) {m : Stream × String} (asked : m ∈ request.markers) :
    c.contains m.1 m.2 = false := by
  rw [WaitRequest.check, WaitRequest.stale?, strict] at checked
  simp only [Bool.false_eq_true, if_false] at checked
  split at checked
  · cases checked
  · next unfound => exact Bool.eq_false_iff.mpr (List.find?_eq_none.mp unfound m asked)

/-- **The markers that a session has waited for, and found.** -/
inductive Found (markers : List (Stream × String)) : ω × Session → ω × Session → Prop
  /-- It waited for them. -/
  | waited {w w' : ω} {s s' : Session} {request : WaitRequest} {polls : UInt32}
      (asked : request.markers = markers)
      (found : s.waitForOutput w request = (.ok (.satisfied polls), w', s')) :
      Found markers (w, s) (w', s')
  /-- It expected them. -/
  | expected {w w' : ω} {s s' : Session} {request : WaitRequest} {outcome : WaitOutcome}
      (asked : request.markers = markers)
      (met : s.expectOutput w request = (.ok outcome, w', s')) : Found markers (w, s) (w', s')
  /-- They showed that it was ready. -/
  | spawned {w w' : ω} {s s' : Session} (asked : s.readiness.markers = markers)
      (ready : s.spawn w = some (.ok s', w')) : Found markers (w, s) (w', s')

variable {x y z : ω × Session}

/-- What was found was waited for. -/
theorem Found.exists_waited {markers : List (Stream × String)} (h : Found markers x y) :
    ∃ (w : ω) (s : Session) (request : WaitRequest) (polls : UInt32), request.markers = markers
      ∧ s.waitForOutput w request = (.ok (.satisfied polls), y) := by
  cases h with
  | waited asked found => exact ⟨_, _, _, _, asked, found⟩
  | @expected w _ s _ request outcome asked met =>
    obtain ⟨found, satisfied⟩ := waitForOutput_of_expectOutput met
    cases outcome with
    | satisfied polls => exact ⟨w, s, request, polls, asked, found⟩
    | exited | timedOut => nomatch satisfied
  | spawned asked ready =>
    obtain ⟨-, child, w₁, polls, -, found⟩ := of_spawn ready
    exact ⟨w₁, _, _, polls, asked, found⟩

/-- **What was found once shows from then on**, in a session that has its child. -/
theorem Found.watches {markers : List (Stream × String)} (h : Found markers x y)
    {drift : ω → ω → Prop} (run : Course drift y z) {request : WaitRequest}
    (asked : request.markers = markers) :
    z.2.Watches (fun a => request.isMet a.capture = true) z.1 := by
  obtain ⟨w, s, found, polls, same, waited⟩ := h.exists_waited
  obtain ⟨-, present, met⟩ := of_waitForOutput waited
  have met : request.isMet y.2.capture = true := by
    rwa [WaitRequest.isMet, same, ← asked] at met
  obtain ⟨child, has⟩ := Option.ne_none_iff_exists'.mp present
  obtain ⟨child, has, read⟩ := (Watched.keeps_reads y.2.capture).course
    (fun _ _ _ read => read) run ⟨child, has, .refl⟩
  exact ⟨child, has, read.grows.isMet met⟩

end Session

/-! ## Waiting for what shows already -/

/-- **A single look at a child**: it is asked for its end and then read; nobody sleeps.  If neither
fails, the child has ended, or what is looked for is there. -/
inductive Watched.Glance (a : Watched ω) : Except SessionFault WaitOutcome → Watched ω → Prop
  /-- It cannot be asked. -/
  | unasked {fault : Fault} (asked : a.tryExit.1 = .error (.system fault)) :
      a.Glance (.error (.system fault)) a.tryExit.2
  /-- It cannot be read. -/
  | unread {answer : Option Exit} {fault : Fault} (asked : a.tryExit.1 = .ok answer)
      (read : a.tryExit.2.pump.1 = .error (.system fault)) :
      a.Glance (.error (.system fault)) a.tryExit.2.pump.2
  /-- It has ended. -/
  | exited {exit : Exit} {count : ℕ} (asked : a.tryExit.1 = .ok (some exit))
      (read : a.tryExit.2.pump.1 = .ok count) :
      a.Glance (.ok (.exited exit)) a.tryExit.2.pump.2
  /-- It is alive, and has written what is looked for. -/
  | satisfied {count : ℕ} (asked : a.tryExit.1 = .ok none)
      (read : a.tryExit.2.pump.1 = .ok count) :
      a.Glance (.ok (.satisfied 1)) a.tryExit.2.pump.2

namespace Watched

variable {a : Watched ω} {fault : SessionFault}

/-- Only the system keeps a child from being asked. -/
theorem tryExit_error (failed : a.tryExit.1 = .error fault) : ∃ why, fault = .system why := by
  rcases a.tryExit_cases with ⟨_, -, eq⟩ | ⟨-, ⟨why, -, eq⟩ | ⟨-, eq⟩ | ⟨_, -, eq⟩⟩
  all_goals rw [eq] at failed
  · nomatch failed
  · exact ⟨why, (Except.error.inj failed).symm⟩
  · nomatch failed
  · nomatch failed

/-- Only the system keeps an output from being read. -/
theorem pumpStream_system {s : Stream} (failed : (a.pumpStream s).1 = .error fault) :
    ∃ why, fault = .system why := by
  rcases a.pumpStream_cases s with ⟨-, eq⟩ | ⟨why, -, eq⟩ | ⟨_, _, -, eq⟩ | ⟨-, eq⟩
  all_goals rw [eq] at failed
  · nomatch failed
  · exact ⟨why, (Except.error.inj failed).symm⟩
  · nomatch failed
  · nomatch failed

theorem pump_error (failed : a.pump.1 = .error fault) : ∃ why, fault = .system why := by
  rcases a.pump_cases with ⟨_, first, eq⟩ | ⟨-, ⟨_, second, eq⟩ | ⟨_, _, -, eq⟩⟩
  all_goals rw [eq] at failed
  · exact pumpStream_system (first.trans failed)
  · exact pumpStream_system (second.trans failed)
  · nomatch failed

/-- **A waiting for what shows already is a single look.** -/
theorem exists_glance {request : WaitRequest} (shown : request.isMet a.capture = true)
    (interval timeout : Span) (clock : WaitClock) :
    ∃ answer b, a.Glance answer b
      ∧ pollUntil Session.polled request interval timeout 0 (⟨a, clock⟩ : Session.Waited ω)
        = (answer, ⟨b, clock⟩) := by
  have still : request.isMet a.tryExit.2.pump.2.capture = true :=
    a.tryExit.2.reads_pump.grows.isMet (a.capture_tryExit.symm ▸ shown)
  rcases asked : a.tryExit.1 with fault | exit
  · obtain ⟨why, rfl⟩ := tryExit_error asked
    refine ⟨_, _, .unasked asked, ?_⟩
    have asked' : Session.polled.tryExit (⟨a, clock⟩ : Session.Waited ω)
      = (.error (.system why), ⟨a.tryExit.2, clock⟩) := Prod.ext asked rfl
    rw [pollUntil, asked']
  rcases read : a.tryExit.2.pump.1 with fault | count
  · obtain ⟨why, rfl⟩ := pump_error read
    refine ⟨_, _, .unread asked read, ?_⟩
    have asked' : Session.polled.tryExit (⟨a, clock⟩ : Session.Waited ω)
      = (.ok exit, ⟨a.tryExit.2, clock⟩) := Prod.ext asked rfl
    have read' : Session.polled.pump (⟨a.tryExit.2, clock⟩ : Session.Waited ω)
      = (.error (.system why), ⟨a.tryExit.2.pump.2, clock⟩) := Prod.ext read rfl
    rw [pollUntil, asked']
    cases exit <;> simp only [read']
  cases exit with
  | some exit =>
    exact ⟨_, _, .exited asked read, pollUntil_of_exit Session.polled request interval timeout 0
      (s := (⟨a, clock⟩ : Session.Waited ω)) asked read⟩
  | none =>
    refine ⟨_, _, .satisfied asked read, ?_⟩
    rw [pollUntil_of_alive Session.polled request interval timeout 0
      (s := (⟨a, clock⟩ : Session.Waited ω)) asked read]
    exact if_pos still

end Watched

namespace Session

/-- A waiting with a child that was not refused fails only if the system does. -/
theorem system_of_waitForOutput {s : Session} {child : Child} (has : s.child = some child)
    {request : WaitRequest} (checked : request.check s.capture = .ok ()) {w : ω}
    {fault : SessionFault} (failed : (s.waitForOutput w request).1 = .error fault) :
    ∃ why, fault = .system why := by
  obtain ⟨answer, x, polled, waited⟩ := waitForOutput_of_child has checked w
  rw [waited] at failed
  exact pollUntil_fault Session.polled (P := fun fault => ∃ why, fault = .system why)
    (fun x _ failed => Watched.tryExit_error failed) (fun x _ failed => Watched.pump_error failed)
    ((congrArg Prod.fst polled).trans failed)

/-- **Why a waiting fails**: there is no child, or a marker is there already, or the system
fails. -/
theorem fault_of_waitForOutput {s : Session} {w : ω} {request : WaitRequest} {fault : SessionFault}
    (failed : (s.waitForOutput w request).1 = .error fault) :
    fault = .notSpawned ∨ (∃ stream marker, fault = .markerPresent stream marker)
      ∨ ∃ why, fault = .system why := by
  cases has : s.child with
  | none =>
    rw [waitForOutput_of_none has] at failed
    exact .inl (Except.error.inj failed).symm
  | some child =>
    cases checked : request.check s.capture with
    | error why =>
      rw [waitForOutput_of_refused has checked] at failed
      obtain rfl := Except.error.inj failed
      rw [WaitRequest.check] at checked
      split at checked
      · exact .inr (.inl ⟨_, _, (Except.error.inj checked).symm⟩)
      · cases checked
    | ok _ => exact .inr (.inr (system_of_waitForOutput has checked failed))

/-- **Output is waited for once.**  Of a request with at least one marker:

* If it wants its markers fresh and is satisfied, none of them was there when the waiting began, and
  all of them are when it ends.
* Once these markers were found — by a waiting of either kind, by an expectation, or by the start of
  the session — then after whatever the session does and whatever happens in the world, every
  request for them that wants them fresh is refused.  The fault names the first that shows, which is
  the first of all, and neither the world nor the session is touched.
* A request for them that takes them as they are is then a single look at the child: unless the
  system fails, it is satisfied after one poll, or the child has ended.  Nobody sleeps, and the time
  is never over. -/
theorem waitForOutput_fresh {request : WaitRequest} (some_marker : request.markers ≠ []) :
    (∀ (w w' : ω) (s s' : Session) (polls : UInt32), request.tolerant = false →
      s.waitForOutput w request = (.ok (.satisfied polls), w', s') →
      ∀ m ∈ request.markers,
        s.capture.contains m.1 m.2 = false ∧ s'.capture.contains m.1 m.2 = true)
    ∧ ∀ (drift : ω → ω → Prop) (x y z : ω × Session), Found request.markers x y →
      Course drift y z → ∀ again : WaitRequest, again.markers = request.markers →
        (again.tolerant = false → ∃ stream marker,
          again.markers.head? = some (stream, marker)
          ∧ again.markers.find? (fun m => z.2.capture.contains m.1 m.2) = some (stream, marker)
          ∧ z.2.waitForOutput z.1 again = (.error (.markerPresent stream marker), z))
        ∧ (again.tolerant = true → ∃ child answer b, z.2.child = some child
          ∧ (⟨z.1, child, z.2.capture⟩ : Watched ω).Glance answer b
          ∧ z.2.waitForOutput z.1 again = (answer, b.host, z.2.after b)) := by
  refine ⟨fun w w' s s' polls strict found m asked => ?_,
    fun drift x y z found run again same => ?_⟩
  · obtain ⟨checked, -, met⟩ := of_waitForOutput found
    exact ⟨absent_of_check strict checked asked, List.all_eq_true.mp met m asked⟩
  obtain ⟨child, has, shown⟩ := found.watches run same
  refine ⟨fun strict => ?_, fun tolerant => ?_⟩
  · obtain ⟨⟨stream, marker⟩, rest, split⟩ := List.exists_cons_of_ne_nil (same ▸ some_marker)
    have first : z.2.capture.contains stream marker = true :=
      List.all_eq_true.mp shown (stream, marker) (split ▸ List.mem_cons_self)
    have stale : again.markers.find? (fun m => z.2.capture.contains m.1 m.2)
        = some (stream, marker) := by
      rw [split]
      exact List.find?_cons_of_pos first
    refine ⟨stream, marker, by rw [split, List.head?_cons], stale,
      waitForOutput_of_refused has ?_ z.1⟩
    rw [WaitRequest.check, WaitRequest.stale?, strict]
    simp only [Bool.false_eq_true, if_false, stale]
  · have checked : again.check z.2.capture = .ok () := by
      rw [WaitRequest.check, WaitRequest.stale?, tolerant, if_pos rfl]
    obtain ⟨answer, b, glance, looked⟩ := Watched.exists_glance (a := ⟨z.1, child, z.2.capture⟩)
      shown z.2.settings.pollInterval (again.timeout.getD z.2.settings.waitTimeout) z.2.clock
    obtain ⟨_, _, polled, waited⟩ := waitForOutput_of_child has checked z.1
    obtain ⟨rfl, rfl⟩ := Prod.mk.inj (looked.symm.trans polled)
    exact ⟨child, answer, b, has, glance, waited⟩

/-- A session whose child lives on, and writes a marker in two parts. -/
def promised : Scripted × Session :=
  (.idle [[.write .stdout (Utf8.encode "read")], [.write .stdout (Utf8.encode "y")]],
    justBuilt.having (.fresh 7))

/-- It is waited for once, and found after two polls; after a third it is refused. -/
theorem waitForOutput_fresh_promised :
    ∃ y : Scripted × Session,
      promised.2.waitForOutput promised.1 { stdout := some "ready" } = (.ok (.satisfied 2), y)
      ∧ promised.2.capture.contains .stdout "ready" = false
      ∧ (y.2.poll y.1).2.2.waitForOutput (y.2.poll y.1).2.1 { stdout := some "ready" }
        = (.error (.markerPresent .stdout "ready"), (y.2.poll y.1).2) := by
  have found : (promised.2.waitForOutput promised.1 { stdout := some "ready" }).1
      = .ok (.satisfied 2) := by decide +kernel
  obtain ⟨fresh, once⟩ :=
    @waitForOutput_fresh Scripted _ { stdout := some "ready" } (by decide)
  refine ⟨_, Prod.ext found rfl,
    (fresh _ _ _ _ 2 rfl (Prod.ext found rfl) (.stdout, "ready") (by decide)).1, ?_⟩
  obtain ⟨refused, -⟩ := once (fun _ _ => False) _ _ _ (.waited rfl (Prod.ext found rfl))
    (.single (.polled _ _)) { stdout := some "ready" } rfl
  obtain ⟨stream, marker, first, -, again⟩ := refused rfl
  obtain ⟨rfl, rfl⟩ := Prod.mk.inj (Option.some.inj first)
  exact again

end Session

end NestedSession
