import NestedSession.Proofs.System.Calling
import NestedSession.Proofs.System.Scripted

/-!
# Proofs/System/Ticking — a clock that is never set back

The clock that deadlines are taken from goes on whatever is asked of the host, and a pause lasts at
least as long as it was asked to (`Host.Steady`).  A host seen through another has a steady clock if
that one has (`Host.Steady.comap`).
-/

namespace NestedSession

variable {ω' ω : Type} [Host ω'] [Host ω] {f : ω' → ω}

/-- What no request changes of a host, none changes of one that mirrors it. -/
theorem Host.Keeps.comap {P : ω → Prop} (h : Host.Mirrors f) (kept : Host.Keeps P) :
    Host.Keeps fun n => P (f n) where
  makeDirs n path held := by
    have kept := kept.makeDirs _ path held
    rwa [h.makeDirs] at kept
  replace n path bs held := by
    have kept := kept.replace _ path bs held
    rwa [h.replace] at kept
  removeTree n path held := by
    have kept := kept.removeTree _ path held
    rwa [h.removeTree] at kept
  leave n pid s rest held := by
    have kept := kept.leave _ pid s rest held
    rwa [h.leave] at kept
  tryWait n pid held := by
    have kept := kept.tryWait _ pid held
    rwa [h.tryWait] at kept
  wait n pid held := by
    have kept := kept.wait _ pid held
    rwa [h.wait] at kept
  kill n pid sent held := by
    have kept := kept.kill _ pid sent held
    rwa [h.kill] at kept
  pause n span held := by
    have kept := kept.pause _ span held
    rwa [h.pause] at kept

/-- **A steady clock.** -/
structure Host.Steady (ω : Type) [Host ω] : Prop where
  /-- No request sets it back. -/
  onward : ∀ moment, Host.Keeps fun w : ω => moment ≤ (Host.now w).nanoseconds
  /-- A pause lasts as long as it was asked to, or longer. -/
  pause : ∀ (w : ω) span,
    (Host.now w).nanoseconds + span ≤ (Host.now (Host.pause w span)).nanoseconds

/-- **A host that mirrors one with a steady clock** has one. -/
theorem Host.Steady.comap (h : Host.Mirrors f) (steady : Host.Steady ω) : Host.Steady ω' where
  onward moment := by simpa only [h.now] using (steady.onward moment).comap h
  pause n span := by simpa only [h.pause, h.now] using steady.pause (f n) span

/-! ## The clock of a script -/

namespace Scripted

theorem clock_perform (w : Scripted) (deed : Deed) : (w.perform deed).clock = w.clock := by
  cases deed with
  | write s bs =>
    rw [perform]
    split <;> rfl
  | close s => rfl
  | exit status held =>
    rw [perform]
    split <;> rfl

theorem clock_foldl (w : Scripted) (deeds : List Deed) :
    (deeds.foldl perform w).clock = w.clock := by
  induction deeds generalizing w with
  | nil => rfl
  | cons deed rest ih => exact (ih _).trans (w.clock_perform deed)

/-- What the process does takes no time. -/
theorem clock_advance (w : Scripted) : w.advance.clock = w.clock := by
  rw [advance]
  split
  · rfl
  · exact clock_foldl _ _

theorem clock_finish (w : Scripted) : w.finish.clock = w.clock := clock_foldl _ _

/-- **Only pauses take time** on the host of a script. -/
theorem steady : Host.Steady Scripted where
  onward moment :=
    { makeDirs := fun w _ held => le_of_le_of_eq held w.clock_advance.symm
      replace := fun w _ _ held => le_of_le_of_eq held w.clock_advance.symm
      removeTree := fun w _ held => le_of_le_of_eq held w.clock_advance.symm
      leave := fun w _ s rest held =>
        le_of_le_of_eq held (w.keep s (octetsOf rest)).clock_advance.symm
      tryWait := fun w pid held => by
        have same := w.clock_advance
        rcases w.tryWait_eq pid with eq | eq | ⟨_, -, eq⟩ <;> rw [eq]
        all_goals exact le_of_le_of_eq held same.symm
      wait := fun w pid held => by
        have same := w.clock_finish
        rcases w.wait_eq pid with eq | ⟨_, eq⟩ <;> rw [eq]
        · exact held
        · exact le_of_le_of_eq held same.symm
      kill := fun w _ _ held => le_of_le_of_eq held w.clock_advance.symm
      pause := fun w span held =>
        le_of_le_of_eq (Nat.le_add_right_of_le held)
          (clock_advance { w with clock := w.clock + span }).symm }
  pause w span := Nat.le_of_eq (clock_advance { w with clock := w.clock + span }).symm

end Scripted

end NestedSession
