import NestedSession.Proofs.Environment.Layers
import NestedSession.Proofs.Text.Incremental
import NestedSession.Session.Basic

/-!
# Proofs/Environment/Nesting — a session within a session

A program in a session finds around it what the session's child was given, and it may start a
session in turn.  The word for the backend is there by then, so the second session takes it over as
it stands (`encode_token_layered`); a runtime directory is there, or the build directory is empty,
which says as little (`runtime_layered`).  All else is entered a second time with the values that it
has.  So the variables of a child are a fixed point of the layers (`Sorted.layered_layered`).
-/

namespace NestedSession.Variables

open Utf8

/-! ## The backend of the second session -/

/-- Octets that are there are shown as something. -/
theorem lossy_ne_empty {bs : Octets} (there : bs ≠ []) : lossy bs ≠ "" := by
  obtain ⟨b, rest, rfl⟩ := List.exists_cons_of_ne_nil there
  have shown : decodeLossy (b :: rest) ≠ [] := by
    rw [decodeLossy]
    split
    · exact List.cons_ne_nil _ _
    · split <;> exact List.cons_ne_nil _ _
  rw [lossy, ← String.toList_inj.ne, String.toList_ofList]
  exact shown

/-- A text that is there is spelled by something. -/
theorem encode_ne_nil {text : String} (there : text ≠ "") : encode text ≠ [] := by
  intro none
  rw [← Decoder.lossy_encode text, none] at there
  exact there (by simp [lossy, decodeLossy])

/-- The value of a variable that is set to something. -/
theorem namedNonEmpty?_eq_some_iff {vars : Variables} {name : String} {value : Octets} :
    vars.namedNonEmpty? name = some value
      ↔ vars.get? (encode name) = some value ∧ value ≠ [] := by
  rw [namedNonEmpty?, getNonEmpty?, Option.filter_eq_some_iff]
  simp

/-- **There always is a word for the backend.** -/
theorem token_backend_ne_empty (vars : Variables) : vars.backend.token ≠ "" := by
  rw [backend]
  split
  · next value named => exact lossy_ne_empty (namedNonEmpty?_eq_some_iff.mp named).2
  · split
    · decide
    · split <;> decide

/-- A backend that is named is the text of its name. -/
theorem backend_of_named {vars : Variables} {name : Octets}
    (named : vars.named? "WLR_BACKENDS" = some name) (there : name ≠ []) :
    vars.backend = .explicit (lossy name) := by
  have found : vars.namedNonEmpty? "WLR_BACKENDS" = some name :=
    namedNonEmpty?_eq_some_iff.mpr ⟨named, there⟩
  rw [backend, found]

/-- **A backend that is named by a text is taken over as it stands.** -/
theorem token_backend_of_named {vars : Variables} {token : String} (there : token ≠ "")
    (named : vars.named? "WLR_BACKENDS" = some (encode token)) : vars.backend.token = token := by
  rw [backend_of_named named (encode_ne_nil there)]
  exact Decoder.lossy_encode token

/-! ## The layers once more -/

section

variable {overrides : Variables} (sorted : overrides.Sorted) (ambient : Variables)
  (buildDir : Path)
include sorted

/-- The variables of a child around a second session, which has its own backend from them. -/
theorem encode_token_layered (named : overrides.get? (encode "WLR_BACKENDS") = none) :
    encode (ambient.layered buildDir ambient.backend overrides).backend.token
      = encode ambient.backend.token := by
  refine congrArg encode (token_backend_of_named ambient.token_backend_ne_empty ?_)
  rw [named?, get?_layered sorted, named, Option.none_or, if_pos rfl]

/-- **A runtime directory that the second session would replace** is the build directory, which it
would be replaced by. -/
theorem runtime_layered (backend : Backend)
    (named : overrides.get? (encode "XDG_RUNTIME_DIR") = none)
    (replaced : (ambient.layered buildDir backend overrides).runtimeDir? = none) :
    (ambient.layered buildDir backend overrides).get? (encode "XDG_RUNTIME_DIR")
      = some buildDir := by
  have there := get?_layered sorted ambient buildDir backend (encode "XDG_RUNTIME_DIR")
  rw [named, Option.none_or, if_neg (by decide)] at there
  cases around : ambient.runtimeDir? with
  | none => rw [there, if_pos ⟨rfl, around⟩]
  | some dir =>
    obtain ⟨set, something⟩ := namedNonEmpty?_eq_some_iff.mp around
    rw [if_neg (by simp [around]), if_neg (by decide), set] at there
    have kept : (ambient.layered buildDir backend overrides).runtimeDir? = some dir :=
      namedNonEmpty?_eq_some_iff.mpr ⟨there, something⟩
    exact absurd (replaced.symm.trans kept) (by simp)

/-- **Entering all layers a second time changes nothing.** -/
theorem Sorted.layered_layered (sortedAmbient : ambient.Sorted) :
    (ambient.layered buildDir ambient.backend overrides).layered buildDir
        (ambient.layered buildDir ambient.backend overrides).backend overrides
      = ambient.layered buildDir ambient.backend overrides := by
  have inOrder {vars : Variables} (inOrder : vars.Sorted) (backend : Backend) :
      (vars.layered buildDir backend overrides).Sorted := inOrder.layered buildDir backend overrides
  refine (inOrder (inOrder sortedAmbient _) _).ext (inOrder sortedAmbient _) fun name => ?_
  have once := get?_layered sorted ambient buildDir ambient.backend name
  rw [get?_layered sorted]
  cases said : overrides.get? name with
  | some value => rw [once, said, Option.some_or, Option.some_or]
  | none =>
    rw [Option.none_or]
    rw [said, Option.none_or] at once
    split
    · next same =>
      subst same
      rw [encode_token_layered sorted ambient buildDir said, once, if_pos rfl]
    split
    · next other same =>
      obtain ⟨rfl, replaced⟩ := same
      exact (runtime_layered sorted ambient buildDir ambient.backend said replaced).symm
    split
    · next other _ same =>
      subst same
      rw [once, if_neg other, if_neg fun both => absurd both.1 (by decide), if_pos rfl]
    · rfl

end

/-- **A session within a session passes the same variables on.**  Whatever is around a program, set
or empty, text or not, and whatever its caller says:

* a program that finds the variables of the child around it, and is told the same build directory
  and the same by its caller, gives its own child those variables again;
* so does a session that is started in another, with directories and settings of its own. -/
theorem layered_idempotent (around said : List (Octets × Octets)) :
    (∀ buildDir : Path,
      let inner (ambient : Variables) := ambient.layered buildDir ambient.backend (ofList said)
      inner (ofList (inner (ofList around)).entries) = inner (ofList around))
    ∧ ∀ s within : Session,
      let outer : Session := { s with ambient := ofList around, overrides := ofList said }
      ({ within with
        ambient := ofList outer.childVariables.entries
        buildDir := outer.buildDir
        overrides := outer.overrides } : Session).childVariables = outer.childVariables := by
  have again (buildDir : Path) :
      let inner (ambient : Variables) := ambient.layered buildDir ambient.backend (ofList said)
      inner (ofList (inner (ofList around)).entries) = inner (ofList around) := by
    intro inner
    have sorted : (inner (ofList around)).Sorted := (sorted_ofList around).layered _ _ _
    rw [sorted.ofList_entries]
    exact (sorted_ofList said).layered_layered _ buildDir (sorted_ofList around)
  exact ⟨again, fun s _ => again s.buildDir⟩

end NestedSession.Variables
