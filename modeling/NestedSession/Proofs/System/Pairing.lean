import NestedSession.System.Host

/-!
# Proofs/System/Pairing — two hosts that answer alike

Two hosts need not be the same to lead a child the same way.  It is enough that some relation
between them is kept by every request about processes and the clock, and that related hosts give the
same answers (`Host.Alike`).  A host seen through another is the case in which one side is a
function of the other.
-/

namespace NestedSession

/-- **The same answer on both sides**, and what is left is related. -/
inductive Both {α β γ : Type} (R : α → β → Prop) : γ × α → γ × β → Prop
  | mk (answer : γ) {a : α} {b : β} (related : R a b) : Both R (answer, a) (answer, b)

namespace Both

variable {α β γ : Type} {R : α → β → Prop} {x : γ × α} {y : γ × β}

/-- What stands on the other side. -/
theorem exists_right {answer : γ} {a : α} (h : Both R (answer, a) y) :
    ∃ b, y = (answer, b) ∧ R a b := by
  cases h with
  | mk _ r => exact ⟨_, rfl, r⟩

/-- What is left is related. -/
theorem left (h : Both R x y) : R x.2 y.2 := by
  cases h with
  | mk _ r => exact r

/-- **The other side is a function of this one** exactly if what is left is. -/
theorem eq_map_iff {f : α → β} : Both (fun a b => f a = b) x y ↔ y = Prod.map id f x := by
  constructor
  · rintro ⟨answer, rfl⟩
    rfl
  · rintro rfl
    exact .mk _ rfl

end Both

/-- **Hosts that answer alike** about processes and the clock, where they are related. -/
structure Host.Alike {ω ω' : Type} [Host ω] [Host ω'] (R : ω → ω' → Prop) : Prop where
  unread : ∀ {w v}, R w v → ∀ pid s, Host.unread w pid s = Host.unread v pid s
  leave : ∀ {w v}, R w v → ∀ pid s rest, R (Host.leave w pid s rest) (Host.leave v pid s rest)
  tryWait : ∀ {w v}, R w v → ∀ pid, Both R (Host.tryWait w pid) (Host.tryWait v pid)
  wait : ∀ {w v}, R w v → ∀ pid, Both R (Host.wait w pid) (Host.wait v pid)
  kill : ∀ {w v}, R w v → ∀ pid sent, Both R (Host.kill w pid sent) (Host.kill v pid sent)
  now : ∀ {w v}, R w v → Host.now w = Host.now v
  pause : ∀ {w v}, R w v → ∀ span, R (Host.pause w span) (Host.pause v span)

end NestedSession
