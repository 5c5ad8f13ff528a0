import NestedSession.CommandLine.Program
import NestedSession.Proofs.Session.Marking

/-!
# Proofs/CommandLine/Running — a run waits for one expectation after the other

Expectations are met one by one (`Met`) as far as that goes (`exists_met`), and the first that is
not ends the waiting: how many were met is then how many stand before it (`Met.meetAll_append`,
`meetAll_of_unmet`).  A run is the same on a host that echoes another (`runSession_map`).
-/

namespace NestedSession

/-! ## Expectations -/

section

variable {ω : Type} [Host ω]

/-- **Expectations that are met**, each waited for alone and after the one before it. -/
inductive Met : ω → Session → List WaitRequest → ω → Session → Prop
  | nil {w : ω} {s : Session} : Met w s [] w s
  | cons {w w₁ w₂ : ω} {s s₁ s₂ : Session} {request : WaitRequest} {rest : List WaitRequest}
      {polls : UInt32} (first : s.waitForOutput w request = (.ok (.satisfied polls), w₁, s₁))
      (later : Met w₁ s₁ rest w₂ s₂) : Met w s (request :: rest) w₂ s₂

/-- What a run does that is not held. -/
theorem RunRequest.body_eq {r : RunRequest} (unheld : r.hold = false) (patience : ℕ) :
    (r.body patience : ScenarioBody ω Unit ℕ) = fun w s => meetAll w s r.expectations 0 := by
  funext w s
  rw [body, unheld]
  rcases meetAll w s r.expectations 0 with ⟨⟨_ | _, _⟩, _, _⟩ <;> rfl

/-- Expectations that are met are counted, and those behind them are next. -/
theorem Met.meetAll_append {w w' : ω} {s s' : Session} {met : List WaitRequest}
    (h : Met w s met w' s') (rest : List WaitRequest) (count : ℕ) :
    meetAll w s (met ++ rest) count = meetAll w' s' rest (count + met.length) := by
  induction h generalizing count with
  | nil => rfl
  | cons first later ih =>
    simp only [List.cons_append, meetAll, Session.expectOutput, first, WaitOutcome.isSatisfied,
      if_true, ih, List.length_cons]
    rw [Nat.add_assoc, Nat.add_comm 1]

theorem Met.meetAll {w w' : ω} {s s' : Session} {met : List WaitRequest}
    (h : Met w s met w' s') (count : ℕ) :
    meetAll w s met count = ((.ok (), count + met.length), w', s') := by
  rw [← List.append_nil met, h.meetAll_append, List.append_nil, NestedSession.meetAll]

/-- An expectation that is not met ends the waiting. -/
theorem meetAll_of_unmet {w w' : ω} {s s' : Session} {request : WaitRequest}
    {outcome : WaitOutcome} (waited : s.waitForOutput w request = (.ok outcome, w', s'))
    (unmet : outcome.isSatisfied = false) (rest : List WaitRequest) (count : ℕ) :
    meetAll w s (request :: rest) count
      = ((.error (.unmet (request.blamed s'.capture).1 (request.blamed s'.capture).2
          outcome.text), count), w', s') := by
  simp only [meetAll, Session.expectOutput, waited, unmet, Bool.false_eq_true, if_false]

/-- So does one whose waiting fails. -/
theorem meetAll_of_failed {w w' : ω} {s s' : Session} {request : WaitRequest}
    {fault : SessionFault} (waited : s.waitForOutput w request = (.error fault, w', s'))
    (rest : List WaitRequest) (count : ℕ) :
    meetAll w s (request :: rest) count = ((.error fault, count), w', s') := by
  simp only [meetAll, Session.expectOutput, waited]

/-- **The longest run of expectations that are met**: it is all of them, or the next one is not
met. -/
theorem exists_met (w : ω) (s : Session) (requests : List WaitRequest) :
    ∃ met w' s', Met w s met w' s' ∧ (met = requests
      ∨ ∃ request untried, requests = met ++ request :: untried
        ∧ ∀ polls w₂ s₂, s'.waitForOutput w' request ≠ (.ok (.satisfied polls), w₂, s₂)) := by
  induction requests generalizing w s with
  | nil => exact ⟨[], w, s, .nil, .inl rfl⟩
  | cons request rest ih =>
    by_cases first : ∃ polls w₁ s₁, s.waitForOutput w request = (.ok (.satisfied polls), w₁, s₁)
    · obtain ⟨polls, w₁, s₁, first⟩ := first
      obtain ⟨met, w', s', later, rfl | ⟨next, untried, rfl, unmet⟩⟩ := ih w₁ s₁
      · exact ⟨request :: met, w', s', .cons first later, .inl rfl⟩
      · exact ⟨request :: met, w', s', .cons first later, .inr ⟨next, untried, rfl, unmet⟩⟩
    · exact ⟨[], w, s, .nil, .inr ⟨request, rest, rfl, fun polls w₁ s₁ eq =>
        first ⟨polls, w₁, s₁, eq⟩⟩⟩

/-- While expectations are met, the session keeps its child. -/
theorem Met.child {w w' : ω} {s s' : Session} {met : List WaitRequest} (h : Met w s met w' s')
    (present : s.child ≠ none) : s'.child ≠ none := by
  induction h with
  | nil => exact present
  | @cons w _ _ _ _ _ request _ _ first _ ih =>
    have kept := Session.child_waitForOutput present w request
    rw [first] at kept
    exact ih kept

end

/-! ## On a host that echoes another -/

variable {ω' ω : Type} [Host ω'] [Host ω] {f : ω' → ω} (h : Host.Echoes f)
include h

theorem Met.map {requests : List WaitRequest} {w w' : ω'} {s s' : Session}
    (met : Met w s requests w' s') :
    Met (f w) s requests (f w') s' := by
  induction met with
  | nil => exact .nil
  | cons first _ ih =>
    exact .cons ((Session.waitForOutput_map h ..).trans
      (congrArg (Prod.map id (Prod.map f id)) first)) ih

theorem meetAll_map (w : ω') (s : Session) (requests : List WaitRequest) (count : ℕ) :
    meetAll (f w) s requests count = Prod.map id (Prod.map f id) (meetAll w s requests count) := by
  induction requests generalizing w s count with
  | nil => rfl
  | cons request rest ih =>
    rw [meetAll, meetAll, Session.expectOutput_map h]
    rcases s.expectOutput w request with ⟨_ | _, w₁, s₁⟩
    · rfl
    · exact ih w₁ s₁ (count + 1)

theorem holdOn_map (w : ω') (s : Session) (patience : ℕ) :
    holdOn (f w) s patience = Prod.map id (Prod.map f id) (holdOn w s patience) := by
  induction patience generalizing w s with
  | zero => rfl
  | succ patience ih =>
    rw [holdOn, holdOn, Session.poll_map h]
    rcases s.poll w with ⟨_ | _ | _, w₁, s₁⟩
    · rfl
    · simp only [Prod.map, id_eq, h.pause]
      exact ih _ s₁
    · rfl

theorem RunRequest.body_map (r : RunRequest) (patience : ℕ) (w : ω') (s : Session) :
    r.body patience (f w) s = Prod.map id (Prod.map f id) (r.body patience w s) := by
  rw [body, body, meetAll_map h]
  rcases meetAll w s r.expectations 0 with ⟨⟨_ | _, _⟩, w₁, s₁⟩
  · rfl
  · simp only [Prod.map, id_eq, holdOn_map h]
    split <;> rfl

/-- **A run is the same** on both hosts. -/
theorem runSession_map (r : RunRequest) (settings : Settings) (ambient : Variables)
    (format : OutputFormat) (colours : Bool) (patience : ℕ) (w : ω') :
    runSession r settings ambient format colours patience (f w)
      = (runSession r settings ambient format colours patience w).map (Prod.map id f) := by
  rw [runSession, runSession, SessionPlan.run_map h _ (r.body_map h patience)]
  rcases (r.plan settings ambient).run (r.body patience) w with _ | ⟨⟨_ | _, _⟩, _⟩ <;> rfl

end NestedSession
