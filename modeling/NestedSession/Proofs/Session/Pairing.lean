import NestedSession.Proofs.Child.Pairing
import NestedSession.Proofs.Session.Course
import NestedSession.Proofs.Session.Mirroring

/-!
# Proofs/Session/Pairing — sessions that differ in their log settings go the same way

Where log files go, and whether the environment asks for them, has no part in what a session does
with its child (`Session.Twins`).  So two such sessions that are used alike, on hosts that answer
alike, stay twins to their end (`Session.Abreast.paired`).  One thing must be granted for that: a
child does not care for the variable that asks for log files (`Host.StartsAlike`).
-/

namespace NestedSession

/-! ## Variables -/

namespace Variables

/-- **Variables that agree but for one name.** -/
def AgreeBut (name : Octets) (vars others : Variables) : Prop :=
  ∀ key, key ≠ name → vars.get? key = others.get? key

variable {name : Octets} {vars others : Variables}

namespace AgreeBut

theorem insert (h : AgreeBut name vars others) (key value : Octets) :
    AgreeBut name (vars.insert key value) (others.insert key value) := by
  intro k different
  rw [get?_insert, get?_insert, h k different]

theorem insertAll (h : AgreeBut name vars others) (pairs : List (Octets × Octets)) :
    AgreeBut name (vars.insertAll pairs) (others.insertAll pairs) := by
  induction pairs generalizing vars others with
  | nil => exact h
  | cons pair pairs ih => exact ih (h.insert pair.1 pair.2)

theorem namedNonEmpty? (h : AgreeBut name vars others) {key : String}
    (different : Utf8.encode key ≠ name) : vars.namedNonEmpty? key = others.namedNonEmpty? key := by
  rw [Variables.namedNonEmpty?, Variables.namedNonEmpty?, getNonEmpty?, getNonEmpty?,
    h _ different]

/-- **The variables of a child** agree as those around the program do. -/
theorem layered (h : AgreeBut (Utf8.encode "SAVE_TEST_LOGS") vars others) (buildDir : Path)
    (overrides : Variables) :
    AgreeBut (Utf8.encode "SAVE_TEST_LOGS") (vars.layered buildDir vars.backend overrides)
      (others.layered buildDir others.backend overrides) := by
  have runtime : vars.runtimeDir? = others.runtimeDir? := h.namedNonEmpty? (by decide)
  have backend : vars.backend = others.backend := by
    rw [Variables.backend, Variables.backend, h.namedNonEmpty? (by decide),
      h.namedNonEmpty? (by decide), h.namedNonEmpty? (by decide)]
  rw [Variables.layered, Variables.layered, backend, runtime]
  refine insertAll (insert ?_ _ _) overrides.entries
  split
  · exact h.insert _ _
  · exact (h.insert _ _).insert _ _

end AgreeBut

end Variables

/-! ## Sessions -/

/-- **The same call** but for the variable that asks for log files. -/
structure Invocation.Twins (call call' : Invocation) : Prop where
  same : call' = { call with vars := call'.vars }
  vars : call.vars.AgreeBut (Utf8.encode "SAVE_TEST_LOGS") call'.vars

/-- **Hosts that answer alike** also where a child is started, which does not care for the variable
that asks for log files. -/
structure Host.StartsAlike {ω ω' : Type} [Host ω] [Host ω'] (R : ω → ω' → Prop) : Prop
    extends Host.Alike R where
  spawn : ∀ {w v}, R w v → ∀ {call call' : Invocation}, call.Twins call' →
    Both R (Host.spawn w call) (Host.spawn v call')
  unblock : ∀ {w v}, R w v → ∀ pid s, Both R (Host.unblock w pid s) (Host.unblock v pid s)

variable {ω ω' : Type} {R : ω → ω' → Prop}

namespace Child

variable [Host ω] [Host ω']

theorem unblockAll_alike (h : Host.StartsAlike R) {w : ω} {v : ω'} (r : R w v) (pid : Pid)
    (streams : List Stream) : Both R (unblockAll w pid streams) (unblockAll v pid streams) := by
  induction streams generalizing w v with
  | nil => exact .mk _ r
  | cons s rest ih =>
    have unblocked := h.unblock r pid s
    rw [unblockAll, unblockAll]
    generalize Host.unblock w pid s = x, Host.unblock v pid s = y at unblocked ⊢
    obtain ⟨_ | _, r⟩ := unblocked
    · exact .mk _ r
    · exact ih r

/-- **A child starts the same way.** -/
theorem start_alike (h : Host.StartsAlike R) {w : ω} {v : ω'} (r : R w v)
    {call call' : Invocation} (twins : call.Twins call') (program : String) :
    Both R (start w call program) (start v call' program) := by
  have spawned := h.spawn r twins
  rw [start, start]
  generalize Host.spawn w call = x, Host.spawn v call' = y at spawned ⊢
  obtain @⟨_ | pid, w, v, r⟩ := spawned
  · exact .mk _ r
  · have unblocked := unblockAll_alike h r pid Stream.all
    simp only
    generalize unblockAll w pid Stream.all = x, unblockAll v pid Stream.all = y at unblocked ⊢
    obtain ⟨_ | _, r⟩ := unblocked
    · exact .mk _ (h.wait (h.kill r pid .kill).left pid).left
    · exact .mk _ r

end Child

namespace Session

/-- **Two sessions that differ at most in where log files go**, and whether the environment asks for
them. -/
structure Twins (s t : Session) : Prop where
  same : t = { s with logs := t.logs, ambient := t.ambient }
  ambient : s.ambient.AgreeBut (Utf8.encode "SAVE_TEST_LOGS") t.ambient

/-- Twins in related worlds. -/
structure Paired (R : ω → ω' → Prop) (x : ω × Session) (y : ω' × Session) : Prop where
  world : R x.1 y.1
  twins : x.2.Twins y.2

namespace Twins

variable {s t : Session} (h : s.Twins t)
include h

theorem child : t.child = s.child := by rw [h.same]

theorem capture : t.capture = s.capture := by rw [h.same]

theorem settings : t.settings = s.settings := by rw [h.same]

theorem clock : t.clock = s.clock := by rw [h.same]

theorem workDir : t.workDir = s.workDir := by rw [h.same]

theorem launch : t.launch = s.launch := by
  rw [h.same]
  rfl

theorem readiness : t.readiness = s.readiness := by
  rw [Session.readiness, Session.readiness, h.settings]

/-- They are given the same child, and the same was read of it. -/
theorem having (child : Option Child) (capture : Capture) (clock : WaitClock) :
    Twins { s with child := child, capture := capture, clock := clock }
      { t with child := child, capture := capture, clock := clock } :=
  ⟨by rw [h.same], h.ambient⟩

theorem withChild (child : Option Child) :
    Twins { s with child := child } { t with child := child } := ⟨by rw [h.same], h.ambient⟩

theorem startupFault (status : String) : t.startupFault status = s.startupFault status := by
  rw [Session.startupFault, Session.startupFault, h.capture]

/-- A child of theirs is started by the same call. -/
theorem invocation :
    (s.launch.invocation s.childVariables).Twins (t.launch.invocation t.childVariables) := by
  have vars := h.ambient.layered s.buildDir s.overrides
  rw [h.same]
  exact ⟨rfl, vars⟩

end Twins

namespace Paired

variable {w : ω} {v : ω'} {s t : Session}

/-- The same child of both was watched alike. -/
theorem after (p : Paired R (w, s) (v, t)) {a : Watched ω} {b : Watched ω'} (r : a.Alike R b) :
    Paired R (a.host, s.after a) (b.host, t.after b) := by
  have twins := p.twins.having (some a.child) a.capture s.clock
  rw [Session.after, Session.after, ← r.child, ← r.capture]
  nth_rewrite 2 [← p.twins.clock] at twins
  exact ⟨r.host, twins⟩

variable [Host ω] [Host ω']

/-- What is polled answers alike. -/
theorem polled (h : Host.Alike R) :
    Session.polled.Alike Session.polled
      fun (x : Waited ω) (y : Waited ω') =>
        x.toWatched.Alike R y.toWatched ∧ x.clock = y.clock where
  tryExit := by
    rintro ⟨a, clock⟩ ⟨b, _⟩ ⟨r, rfl⟩
    have asked := r.tryExit h
    simp only [Session.polled] at asked ⊢
    generalize a.tryExit = x, b.tryExit = y at asked ⊢
    obtain ⟨_, r⟩ := asked
    exact .mk _ ⟨r, rfl⟩
  pump := by
    rintro ⟨a, clock⟩ ⟨b, _⟩ ⟨r, rfl⟩
    have pumped := r.pump h
    simp only [Session.polled] at pumped ⊢
    generalize a.pump = x, b.pump = y at pumped ⊢
    obtain ⟨_, r⟩ := pumped
    exact .mk _ ⟨r, rfl⟩
  capture q := q.1.capture
  sleep := by
    rintro ⟨a, clock⟩ ⟨b, _⟩ span ⟨r, rfl⟩
    cases clock with
    | steady => exact ⟨⟨h.pause r.host span, r.child, r.capture⟩, rfl⟩
    | tally count => exact ⟨r, rfl⟩

/-- **Twins wait the same way.** -/
theorem waitForOutput (h : Host.Alike R) (p : Paired R (w, s) (v, t)) (request : WaitRequest) :
    Both (Paired R) (s.waitForOutput w request) (t.waitForOutput v request) := by
  -- the timeout is hidden, for a count of nanoseconds is nothing to compute with
  obtain ⟨timeout, same⟩ : ∃ t, request.timeout.getD s.settings.waitTimeout = t := ⟨_, rfl⟩
  rw [Session.waitForOutput, Session.waitForOutput, p.twins.child, p.twins.capture,
    p.twins.settings, p.twins.clock, same]
  cases s.child with
  | none => exact .mk _ p
  | some child =>
    cases request.check s.capture with
    | error fault => exact .mk _ p
    | ok _ =>
      have waited := (polled h).pollUntil
        (s := ⟨⟨w, child, s.capture⟩, s.clock⟩) (t := ⟨⟨v, child, s.capture⟩, s.clock⟩)
        ⟨⟨p.world, rfl, rfl⟩, rfl⟩ request s.settings.pollInterval timeout 0
      simp only
      generalize NestedSession.pollUntil Session.polled request s.settings.pollInterval timeout 0
        (⟨⟨w, child, s.capture⟩, s.clock⟩ : Waited ω) = x,
        NestedSession.pollUntil Session.polled request s.settings.pollInterval timeout 0
        (⟨⟨v, child, s.capture⟩, s.clock⟩ : Waited ω') = y at waited ⊢
      obtain @⟨_, ⟨a, clock⟩, ⟨b, _⟩, ⟨r, rfl⟩⟩ := waited
      refine .mk _ ⟨r.host, ?_⟩
      rw [Session.after, Session.after, ← r.child, ← r.capture]
      exact p.twins.having (some a.child) a.capture clock

/-- **Twins expect the same way.** -/
theorem expectOutput (h : Host.Alike R) (p : Paired R (w, s) (v, t)) (request : WaitRequest) :
    Both (Paired R) (s.expectOutput w request) (t.expectOutput v request) := by
  have waited := p.waitForOutput h request
  rw [Session.expectOutput, Session.expectOutput]
  generalize s.waitForOutput w request = x, t.waitForOutput v request = y at waited ⊢
  obtain @⟨answer, ⟨w, s⟩, ⟨v, t⟩, p⟩ := waited
  rcases answer with fault | outcome
  · exact .mk _ p
  · simp only
    split
    · exact .mk _ p
    · rw [p.twins.capture]
      exact .mk _ p

/-- **Twins are polled the same way.** -/
theorem poll (h : Host.Alike R) (p : Paired R (w, s) (v, t)) :
    Both (Paired R) (s.poll w) (t.poll v) := by
  rw [Session.poll, Session.poll, p.twins.child, p.twins.capture]
  cases s.child with
  | none => exact .mk _ p
  | some child =>
    have pumped := Watched.Alike.pump h (a := ⟨w, child, s.capture⟩) (b := ⟨v, child, s.capture⟩)
      ⟨p.world, rfl, rfl⟩
    simp only
    generalize (⟨w, child, s.capture⟩ : Watched ω).pump = x,
      (⟨v, child, s.capture⟩ : Watched ω').pump = y at pumped ⊢
    obtain @⟨answer, a, b, r⟩ := pumped
    rcases answer with fault | _
    · exact .mk _ (p.after r)
    · have asked := r.tryExit h
      simp only
      generalize a.tryExit = x, b.tryExit = y at asked ⊢
      obtain ⟨_, r⟩ := asked
      exact .mk _ (p.after r)

/-- What twins are told of how the child stands. -/
theorem lastStatus (h : Host.Alike R) (p : Paired R (w, s) (v, t)) :
    Both (Paired R) (s.lastStatus w) (t.lastStatus v) := by
  rw [Session.lastStatus, Session.lastStatus, p.twins.child, p.twins.capture]
  cases s.child with
  | none => exact .mk _ p
  | some child =>
    have asked := Watched.Alike.tryExit h (a := ⟨w, child, s.capture⟩)
      (b := ⟨v, child, s.capture⟩) ⟨p.world, rfl, rfl⟩
    simp only
    generalize (⟨w, child, s.capture⟩ : Watched ω).tryExit = x,
      (⟨v, child, s.capture⟩ : Watched ω').tryExit = y at asked ⊢
    obtain @⟨answer, a, b, r⟩ := asked
    rcases answer with _ | _ <;> exact .mk _ (p.after r)

end Paired

/-- **How twins start**: both become ready, as twins, or both fail for the same reason. -/
inductive StartedAlike (R : ω → ω' → Prop) :
    Except SessionFault Session × ω → Except SessionFault Session × ω' → Prop
  | ready {w : ω} {v : ω'} {s t : Session} (p : Paired R (w, s) (v, t)) :
      StartedAlike R (.ok s, w) (.ok t, v)
  | failed (fault : SessionFault) {w : ω} {v : ω'} :
      StartedAlike R (.error fault, w) (.error fault, v)

namespace Paired

variable {w : ω} {v : ω'} {s t : Session} [Host ω] [Host ω']

/-- **The children of twins are ended the same way.** -/
theorem terminate (h : Host.Alike R) (p : Paired R (w, s) (v, t)) (child : Child) :
    Option.Rel (Both (Watched.Alike R))
      ((⟨w, child, s.capture⟩ : Watched ω).terminate s.settings.shutdownTimeout)
      ((⟨v, child, t.capture⟩ : Watched ω').terminate t.settings.shutdownTimeout) := by
  rw [p.twins.capture, p.twins.settings]
  exact Watched.Alike.terminate h ⟨p.world, rfl, rfl⟩ _

/-- Twins that are given up for the same reason. -/
theorem failWith (h : Host.Alike R) (p : Paired R (w, s) (v, t)) (fault : SessionFault) :
    Option.Rel (StartedAlike R) (s.failWith w fault) (t.failWith v fault) := by
  rw [Session.failWith, Session.failWith]
  cases has : s.child with
  | none =>
    rw [abandon_of_none has, abandon_of_none (p.twins.child.trans has)]
    exact .some (.failed fault)
  | some child =>
    rw [abandon_of_child has, abandon_of_child (p.twins.child.trans has)]
    have ended := p.terminate h child
    generalize (⟨w, child, s.capture⟩ : Watched ω).terminate s.settings.shutdownTimeout = x,
      (⟨v, child, t.capture⟩ : Watched ω').terminate t.settings.shutdownTimeout = y at ended ⊢
    cases ended with
    | none => exact .none
    | some => exact .some (.failed fault)

/-- **Twins start the same way.** -/
theorem spawn (h : Host.StartsAlike R) (p : Paired R (w, s) (v, t)) :
    Option.Rel (StartedAlike R) (s.spawn w) (t.spawn v) := by
  have started := Child.start_alike h p.world p.twins.invocation s.launch.program
  rw [Session.spawn, Session.spawn, p.twins.child, p.twins.launch]
  rw [p.twins.launch] at started
  cases s.child with
  | some child => exact p.failWith h.toAlike _
  | none =>
    simp only at started ⊢
    generalize Child.start w (s.launch.invocation s.childVariables) s.launch.program = x,
      Child.start v (s.launch.invocation t.childVariables) s.launch.program = y at started ⊢
    obtain @⟨answer, w, v, r⟩ := started
    rcases answer with fault | child
    · have p' : Paired R (w, s) (v, t) := ⟨r, p.twins⟩
      exact p'.failWith h.toAlike fault
    · have p' : Paired R (w, { s with child := some child }) (v, { t with child := some child }) :=
        ⟨r, p.twins.withChild (some child)⟩
      have waited := p'.waitForOutput h.toAlike s.readiness
      have ready : Session.readiness { s with child := some child } = s.readiness := rfl
      simp only [p'.twins.readiness, ready]
      generalize Session.waitForOutput { s with child := some child } w s.readiness = x,
        Session.waitForOutput { t with child := some child } v s.readiness = y at waited ⊢
      obtain @⟨answer, ⟨w, s⟩, ⟨v, t⟩, p⟩ := waited
      rcases answer with fault | polls | exit | polls
      · exact p.failWith h.toAlike fault
      · exact .some (.ready p)
      · simp only [p.twins.startupFault]
        exact p.failWith h.toAlike _
      · have asked := p.lastStatus h.toAlike
        simp only
        generalize s.lastStatus w = x, t.lastStatus v = y at asked ⊢
        obtain @⟨status, ⟨w, s⟩, ⟨v, t⟩, p⟩ := asked
        simp only [p.twins.startupFault]
        exact p.failWith h.toAlike _

end Paired

/-- **Two sessions that are used alike** from some point on where they were twins. -/
inductive Abreast [Host ω] [Host ω'] (R : ω → ω' → Prop) : ω × Session → ω' × Session → Prop
  /-- They were twins. -/
  | begun {x : ω × Session} {y : ω' × Session} (p : Paired R x y) : Abreast R x y
  /-- They waited for output. -/
  | waited {x : ω × Session} {y : ω' × Session} (run : Abreast R x y) (request : WaitRequest) :
      Abreast R (x.2.waitForOutput x.1 request).2 (y.2.waitForOutput y.1 request).2
  /-- They expected output. -/
  | expected {x : ω × Session} {y : ω' × Session} (run : Abreast R x y) (request : WaitRequest) :
      Abreast R (x.2.expectOutput x.1 request).2 (y.2.expectOutput y.1 request).2
  /-- They were polled. -/
  | polled {x : ω × Session} {y : ω' × Session} (run : Abreast R x y) :
      Abreast R (x.2.poll x.1).2 (y.2.poll y.1).2
  /-- They became ready. -/
  | spawned {x : ω × Session} {y : ω' × Session} {w : ω} {v : ω'} {s t : Session}
      (run : Abreast R x y) (ready : x.2.spawn x.1 = some (.ok s, w))
      (ready' : y.2.spawn y.1 = some (.ok t, v)) : Abreast R (w, s) (v, t)
  /-- Something happened in their worlds, alike. -/
  | passed {w w' : ω} {v v' : ω'} {s t : Session} (run : Abreast R (w, s) (v, t)) (r : R w' v') :
      Abreast R (w', s) (v', t)

/-- **Twins that are used alike stay twins.** -/
theorem Abreast.paired [Host ω] [Host ω'] (h : Host.StartsAlike R) {x : ω × Session}
    {y : ω' × Session} (run : Abreast R x y) : Paired R x y := by
  induction run with
  | begun p => exact p
  | waited _ request ih => exact (ih.waitForOutput h.toAlike request).left
  | expected _ request ih => exact (ih.expectOutput h.toAlike request).left
  | polled _ ih => exact (ih.poll h.toAlike).left
  | spawned _ ready ready' ih =>
    have started := ih.spawn h
    rw [ready, ready'] at started
    obtain ⟨⟨p⟩⟩ := started
    exact p
  | passed _ r ih => exact ⟨r, ih.twins⟩

end Session

end NestedSession
