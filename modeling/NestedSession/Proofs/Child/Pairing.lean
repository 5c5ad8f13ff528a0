import NestedSession.Proofs.Child.Steps
import NestedSession.Proofs.System.Noting
import NestedSession.Proofs.System.Pairing

/-!
# Proofs/Child/Pairing — a child is watched the same way on two hosts that answer alike

Each step with a child gives the same answer on both hosts and leaves related ones behind; the loop
that waits for the child's end is the one place where that takes an induction
(`Watched.Alike.awaitEnd`).  A host and the one that it mirrors answer alike (`Host.Mirrors.alike`),
so there each step is the same (`Watched.terminate_map`).
-/

namespace NestedSession

section

variable {ω ω' : Type} {R : ω → ω' → Prop}

namespace Watched

/-- **The same child in related worlds**, of which the same was read. -/
structure Alike (R : ω → ω' → Prop) (a : Watched ω) (b : Watched ω') : Prop where
  host : R a.host b.host
  child : a.child = b.child
  capture : a.capture = b.capture

namespace Alike

variable [Host ω] [Host ω'] (h : Host.Alike R) {a : Watched ω} {b : Watched ω'}
include h

theorem tryExit (r : a.Alike R b) : Both (Watched.Alike R) a.tryExit b.tryExit := by
  obtain ⟨w, child, c⟩ := a
  obtain ⟨v, _, _⟩ := b
  obtain ⟨r, rfl, rfl⟩ := r
  cases known : child.exit with
  | some exit =>
    simp only [Watched.tryExit, known]
    exact .mk _ ⟨r, rfl, rfl⟩
  | none =>
    have asked := h.tryWait r child.pid
    simp only [Watched.tryExit, known] at asked ⊢
    generalize Host.tryWait w child.pid = x, Host.tryWait v child.pid = y at asked ⊢
    obtain ⟨_ | _ | _, r⟩ := asked <;> exact .mk _ ⟨r, rfl, rfl⟩

theorem wait (r : a.Alike R b) : Both (Watched.Alike R) a.wait b.wait := by
  obtain ⟨w, child, c⟩ := a
  obtain ⟨v, _, _⟩ := b
  obtain ⟨r, rfl, rfl⟩ := r
  cases known : child.exit with
  | some exit =>
    simp only [Watched.wait, known]
    exact .mk _ ⟨r, rfl, rfl⟩
  | none =>
    have waited := h.wait r child.pid
    simp only [Watched.wait, known] at waited ⊢
    generalize Host.wait w child.pid = x, Host.wait v child.pid = y at waited ⊢
    obtain ⟨_ | _, r⟩ := waited <;> exact .mk _ ⟨r, rfl, rfl⟩

theorem signal (r : a.Alike R b) (sent : Signal) :
    Both (Watched.Alike R) (a.signal sent) (b.signal sent) := by
  have asked := r.tryExit h
  rw [Watched.signal, Watched.signal]
  generalize a.tryExit = x, b.tryExit = y at asked ⊢
  obtain @⟨answer, ⟨w, child, c⟩, ⟨v, _, _⟩, ⟨r, rfl, rfl⟩⟩ := asked
  rcases answer with _ | _ | _
  · exact .mk _ ⟨r, rfl, rfl⟩
  · have killed := h.kill r child.pid sent
    simp only
    by_cases reachable : Pid.reachable child.pid = true
    · simp only [if_pos reachable]
      generalize Host.kill w child.pid sent = x, Host.kill v child.pid sent = y at killed ⊢
      obtain ⟨errno | _, r⟩ := killed
      · by_cases gone : errno = .noProcess
        · simp only [if_pos gone]
          exact .mk _ ⟨r, rfl, rfl⟩
        · simp only [if_neg gone]
          exact .mk _ ⟨r, rfl, rfl⟩
      · exact .mk _ ⟨r, rfl, rfl⟩
    · simp only [if_neg reachable]
      exact .mk _ ⟨r, rfl, rfl⟩
  · exact .mk _ ⟨r, rfl, rfl⟩

theorem pumpStream (r : a.Alike R b) (s : Stream) :
    Both (Watched.Alike R) (a.pumpStream s) (b.pumpStream s) := by
  obtain ⟨w, child, c⟩ := a
  obtain ⟨v, _, _⟩ := b
  obtain ⟨r, rfl, rfl⟩ := r
  rw [Watched.pumpStream, Watched.pumpStream]
  split
  · have left := h.leave r child.pid s (c.drain s (Host.unread w child.pid s)).unread
    simp only [← h.unread r child.pid s]
    rcases (c.drain s (Host.unread w child.pid s)).result with _ | _ | _ | _ <;>
      exact .mk _ ⟨left, rfl, rfl⟩
  · exact .mk _ ⟨r, rfl, rfl⟩

theorem pump (r : a.Alike R b) : Both (Watched.Alike R) a.pump b.pump := by
  have first := r.pumpStream h .stdout
  rw [Watched.pump, Watched.pump]
  generalize a.pumpStream .stdout = x, b.pumpStream .stdout = y at first ⊢
  obtain @⟨answer, a, b, r⟩ := first
  rcases answer with _ | _
  · exact .mk _ r
  · have second := r.pumpStream h .stderr
    simp only
    generalize a.pumpStream .stderr = x, b.pumpStream .stderr = y at second ⊢
    obtain ⟨_ | _, r⟩ := second <;> exact .mk _ r

/-- **The loop that waits for the child's end** makes the same rounds. -/
theorem awaitEnd (r : a.Alike R b) (deadline : Moment) (left : Span) :
    Both (Watched.Alike R) (a.awaitEnd deadline left) (b.awaitEnd deadline left) := by
  have looking {a c : Watched ω} {b : Watched ω'} {answer : Except SessionFault (Option Exit)}
      (r : a.Alike R b) (asked : a.pump.2.tryExit = (answer, c)) :
      ∃ d, b.pump.2.tryExit = (answer, d) ∧ c.Alike R d := by
    have looked := (r.pump h).left.tryExit h
    rw [asked] at looked
    exact looked.exists_right
  fun_induction Watched.awaitEnd a deadline left generalizing b with
  | case1 a left _ fault c =>
    rename_i asked
    obtain ⟨d, told, r⟩ := looking r asked
    rw [Watched.awaitEnd.eq_def b]
    simp only [told]
    exact .mk _ r
  | case2 a left _ exit c =>
    rename_i asked
    obtain ⟨d, told, r⟩ := looking r asked
    rw [Watched.awaitEnd.eq_def b]
    simp only [told]
    exact .mk _ (r.pump h).left
  | case3 a left _ c asked span =>
    rename_i spent
    obtain ⟨d, told, r⟩ := looking r asked
    rw [Watched.awaitEnd.eq_def b]
    simp only [told, ← h.now r.host]
    exact (if_pos spent).symm ▸ .mk _ r
  | case4 a left _ c asked span more step =>
    rename_i ih
    obtain ⟨d, told, r⟩ := looking r asked
    rw [Watched.awaitEnd.eq_def b]
    simp only [told, ← h.now r.host]
    exact (if_neg more).symm ▸ ih ⟨h.pause r.host _, r.child, r.capture⟩

/-- **The end of a child**, or none on either side where the deadline cannot be shown. -/
theorem terminate (r : a.Alike R b) (grace : Span) :
    Option.Rel (Both (Watched.Alike R)) (a.terminate grace) (b.terminate grace) := by
  have told := (r.signal h .term).left
  rw [Watched.terminate, Watched.terminate]
  generalize (a.signal .term).2 = a, (b.signal .term).2 = b at told ⊢
  simp only [← h.now told.host]
  cases (Host.now a.host).after? grace with
  | none => exact .none
  | some deadline =>
    have awaited := told.awaitEnd h deadline grace
    simp only
    generalize a.awaitEnd deadline grace = x, b.awaitEnd deadline grace = y at awaited ⊢
    obtain @⟨exit, a, b, r⟩ := awaited
    cases exit with
    | some exit => exact .some (.mk _ r)
    | none =>
      have waited := (r.signal h .kill).left.wait h
      simp only [kill]
      generalize (a.signal .kill).2.wait = x, (b.signal .kill).2.wait = y at waited ⊢
      obtain ⟨_ | exit, r⟩ := waited
      · exact .some (.mk _ r)
      · exact .some (.mk _ (r.pump h).left)

end Alike

end Watched

end

/-! ## On a host that mirrors another -/

section

variable {ω' ω : Type} [Host ω'] [Host ω] {f : ω' → ω}

/-- **A host and the one that it mirrors answer alike.** -/
theorem Host.Mirrors.alike (h : Host.Mirrors f) : Host.Alike fun n w => f n = w where
  unread := by
    rintro n _ rfl pid s
    exact (h.unread n pid s).symm
  leave := by
    rintro n _ rfl pid s rest
    exact (h.leave n pid s rest).symm
  tryWait := by
    rintro n _ rfl pid
    exact Both.eq_map_iff.mpr (h.tryWait n pid)
  wait := by
    rintro n _ rfl pid
    exact Both.eq_map_iff.mpr (h.wait n pid)
  kill := by
    rintro n _ rfl pid sent
    exact Both.eq_map_iff.mpr (h.kill n pid sent)
  now := by
    rintro n _ rfl
    exact (h.now n).symm
  pause := by
    rintro n _ rfl span
    exact (h.pause n span).symm

namespace Watched

/-- A watched child, its world seen through another. -/
def map (f : ω' → ω) (a : Watched ω') : Watched ω := ⟨f a.host, a.child, a.capture⟩

omit [Host ω'] [Host ω] in
theorem alike_map (a : Watched ω') : a.Alike (fun n w => f n = w) (a.map f) := ⟨rfl, rfl, rfl⟩

omit [Host ω'] [Host ω] in
/-- The same child in a world and in what is seen of it. -/
theorem eq_map_of_both {γ : Type} {x : γ × Watched ω'} {y : γ × Watched ω}
    (h : Both (Watched.Alike fun n w => f n = w) x y) : y = Prod.map id (Watched.map f) x := by
  obtain @⟨answer, a, ⟨w, child, c⟩, ⟨rfl, rfl, rfl⟩⟩ := h
  rfl

variable (h : Host.Mirrors f)
include h

theorem tryExit_map (a : Watched ω') :
    (a.map f).tryExit = Prod.map id (Watched.map f) a.tryExit :=
  eq_map_of_both (a.alike_map.tryExit h.alike)

theorem pump_map (a : Watched ω') : (a.map f).pump = Prod.map id (Watched.map f) a.pump :=
  eq_map_of_both (a.alike_map.pump h.alike)

theorem signal_map (a : Watched ω') (sent : Signal) :
    (a.map f).signal sent = Prod.map id (Watched.map f) (a.signal sent) :=
  eq_map_of_both (a.alike_map.signal h.alike sent)

theorem wait_map (a : Watched ω') : (a.map f).wait = Prod.map id (Watched.map f) a.wait :=
  eq_map_of_both (a.alike_map.wait h.alike)

/-- **The end of a child**, or none where the deadline cannot be shown. -/
theorem terminate_map (a : Watched ω') (grace : Span) :
    (a.map f).terminate grace
      = (a.terminate grace).map (Prod.map id (Watched.map f)) := by
  have alike := a.alike_map.terminate h.alike grace
  generalize a.terminate grace = x, (a.map f).terminate grace = y at alike ⊢
  cases alike with
  | none => rfl
  | some ended => exact congrArg some (eq_map_of_both ended)

end Watched

end

end NestedSession
