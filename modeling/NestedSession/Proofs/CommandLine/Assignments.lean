import Mathlib.Data.List.Forall2
import NestedSession.CommandLine.Reading
import NestedSession.Proofs.Environment.Layers
import NestedSession.Proofs.Text.Sequence

/-!
# Proofs/CommandLine/Assignments — what a run sets for its child

A value that sets a variable is a text, but is cut at the first `=` of its octets: no other
character has that octet in its spelling (`Word.equals_notMem_utf8EncodeChar`).  So names and
settings can be told from the octets alone (`Switch.of_readAssignment`), and the last value with a
name is what a run sets that name to, before the log domains (`RunRequest.get?_overrides`).
-/

/-! ## Where a value is cut -/

namespace NestedSession.Word

/-- What stands before the first `=`, or all if there is none. -/
def nameIn (word : Octets) : Octets := word.takeWhile (· ≠ equals)

/-- **A value sets a variable**: it is a text, it has a `=`, and something stands before that. -/
structure IsAssignment (value : Octets) : Prop where
  isText : ∃ text, Utf8.decode? value = some text
  has : equals ∈ value
  named : nameIn value ≠ []

/-- The octet of `=` is in the spelling of no other character. -/
theorem equals_notMem_utf8EncodeChar {c : Char} (other : c ≠ '=') :
    equals ∉ String.utf8EncodeChar c := by
  intro there
  by_cases ascii : c.val.toNat < 128
  · rw [Utf8.utf8EncodeChar_ascii ascii, List.mem_singleton] at there
    have number : c.val.toNat = 0x3D := by
      have same : (0x3D : Nat) = c.val.toNat % 256 := congrArg UInt8.toNat there
      omega
    exact other (Char.ext (UInt32.toNat_inj.mp number))
  · exact Utf8.not_ascii_of_mem_utf8EncodeChar (Nat.not_lt.mp ascii) there (by decide)

/-- The octets before the first `=` spell the characters before it. -/
theorem nameIn_flatMap (cs : List Char) :
    nameIn (cs.flatMap String.utf8EncodeChar)
      = (cs.takeWhile (· ≠ '=')).flatMap String.utf8EncodeChar := by
  induction cs with
  | nil => rfl
  | cons c cs ih =>
    by_cases same : c = '='
    · subst same
      rfl
    · have apart : ∀ b ∈ String.utf8EncodeChar c, decide (b ≠ equals) = true := fun b there =>
        decide_eq_true fun eq => equals_notMem_utf8EncodeChar same (eq ▸ there)
      rw [List.flatMap_cons, nameIn, List.takeWhile_append_of_pos apart,
        List.takeWhile_cons_of_pos (by simpa using same), List.flatMap_cons]
      exact congrArg _ ih

/-- Some characters have no octets only if there are none. -/
theorem flatMap_eq_nil_iff {cs : List Char} : cs.flatMap String.utf8EncodeChar = [] ↔ cs = [] := by
  refine ⟨fun empty => ?_, fun none => none ▸ rfl⟩
  cases cs with
  | nil => rfl
  | cons c cs => exact absurd (List.append_eq_nil_iff.mp empty).1 String.utf8EncodeChar_ne_nil

/-- The octets from the first `=` on spell the characters from it on. -/
theorem dropWhile_flatMap (cs : List Char) :
    (cs.flatMap String.utf8EncodeChar).dropWhile (· ≠ equals)
      = (cs.dropWhile (· ≠ '=')).flatMap String.utf8EncodeChar := by
  induction cs with
  | nil => rfl
  | cons c cs ih =>
    by_cases same : c = '='
    · subst same
      rfl
    · have apart : ∀ b ∈ String.utf8EncodeChar c, decide (b ≠ equals) = true := fun b there =>
        decide_eq_true fun eq => equals_notMem_utf8EncodeChar same (eq ▸ there)
      rw [List.flatMap_cons, List.dropWhile_append_of_pos apart, ih,
        List.dropWhile_cons_of_pos (by simpa using same)]

end NestedSession.Word

namespace NestedSession.Switch

open Word

variable {s : Switch} {value : Octets}

/-- Reading a value that sets a variable, if it is a text. -/
theorem readAssignment_of_text {text : String} (decoded : Utf8.decode? value = some text) :
    s.readAssignment value = match text.toList.dropWhile (· ≠ '=') with
      | _ :: setting =>
        if (text.toList.takeWhile (· ≠ '=')).isEmpty then readAssignment.refuse s text
        else .ok (String.ofList (text.toList.takeWhile (· ≠ '=')), String.ofList setting)
      | [] => readAssignment.refuse s text := by
  rw [readAssignment, readText, decoded]
  rfl

/-- **What is read is what the octets say**: the name before the first `=` and the setting after
it. -/
theorem of_readAssignment {name setting : String}
    (read : s.readAssignment value = .ok (name, setting)) :
    IsAssignment value ∧ nameIn value = Utf8.encode name
      ∧ valueIn value = some (Utf8.encode setting) := by
  cases decoded : Utf8.decode? value with
  | none => simp [readAssignment, readText, decoded, bind, Except.bind] at read
  | some text =>
    have spelled : text.toList.flatMap String.utf8EncodeChar = value :=
      Utf8.encode_of_decode? decoded
    have before := nameIn_flatMap text.toList
    have after := dropWhile_flatMap text.toList
    rw [spelled] at before after
    rw [readAssignment_of_text decoded] at read
    cases rest : text.toList.dropWhile (· ≠ '=') with
    | nil =>
      simp only [rest] at read
      cases read
    | cons c cs =>
      have cut : c = '=' := by
        have first := List.head?_dropWhile_not (· ≠ '=') text.toList
        simpa only [rest, List.head?_cons, decide_eq_false_iff_not, not_not] using first
      subst cut
      rw [rest, List.flatMap_cons] at after
      have behind : value.dropWhile (· ≠ equals) = equals :: cs.flatMap String.utf8EncodeChar :=
        after
      simp only [rest] at read
      split at read
      · cases read
      · next named =>
        simp only [Except.ok.injEq, Prod.mk.injEq] at read
        obtain ⟨rfl, rfl⟩ := read
        refine ⟨⟨⟨text, decoded⟩, ?_, ?_⟩, ?_, ?_⟩
        · refine (List.dropWhile_sublist (· ≠ equals)).subset ?_
          rw [behind]
          exact List.mem_cons_self
        · rw [before]
          exact fun empty => named (List.isEmpty_iff.mpr (flatMap_eq_nil_iff.mp empty))
        · rw [before, Utf8.encode, String.toList_ofList]
        · rw [valueIn, behind, Utf8.encode, String.toList_ofList]

/-- **A value is accepted exactly if it sets a variable.** -/
theorem exists_readAssignment_iff :
    (∃ setting, s.readAssignment value = .ok setting) ↔ IsAssignment value := by
  refine ⟨fun ⟨setting, read⟩ => (of_readAssignment read).1, fun ⟨⟨text, decoded⟩, has, named⟩ => ?_⟩
  have spelled : text.toList.flatMap String.utf8EncodeChar = value :=
    Utf8.encode_of_decode? decoded
  have before := nameIn_flatMap text.toList
  have after := dropWhile_flatMap text.toList
  rw [spelled] at before after
  rw [readAssignment_of_text decoded]
  cases rest : text.toList.dropWhile (· ≠ '=') with
  | nil =>
    rw [rest, List.flatMap_nil, List.dropWhile_eq_nil_iff] at after
    exact absurd rfl (of_decide_eq_true (after equals has))
  | cons c cs =>
    have some : ¬ (text.toList.takeWhile (· ≠ '=')).isEmpty = true := fun empty =>
      named (before.trans (flatMap_eq_nil_iff.mpr (List.isEmpty_iff.mp empty)))
    exact ⟨_, if_neg some⟩

end NestedSession.Switch

/-! ## What the last value says -/

namespace NestedSession

open Word

/-- Values that set variables, and what was read of each. -/
abbrev Assigned (values : List Octets) (assignments : List (String × String)) : Prop :=
  List.Forall₂ (fun value setting => Switch.assignment.readAssignment value = .ok setting) values
    assignments

/-- Values that are texts, and what was read of each. -/
abbrev Texts (values : List Octets) (texts : List String) : Prop :=
  List.Forall₂ (fun value text => Switch.readText value = .ok text) values texts

/-- What was read of values that are texts spells them. -/
theorem Texts.map_encode {values : List Octets} {texts : List String} (read : Texts values texts) :
    texts.map Utf8.encode = values := by
  induction read with
  | nil => rfl
  | @cons value text values texts first _ ih =>
    rw [List.map_cons, ih]
    congr 1
    rw [Switch.readText] at first
    split at first
    · next decoded =>
      cases first
      exact Utf8.encode_of_decode? decoded
    · cases first

/-- **What the last value with a name sets it to.** -/
def lastSetting (values : List Octets) (name : Octets) : Option Octets :=
  values.reverse.findSome? fun value => if nameIn value = name then valueIn value else none

/-- What was read last for a name is what the last value with that name says. -/
theorem Assigned.lookup_reverse {values : List Octets} {assignments : List (String × String)}
    (read : Assigned values assignments) (name : Octets) :
    (assignments.map fun p => (Utf8.encode p.1, Utf8.encode p.2)).reverse.lookup name
      = lastSetting values name := by
  induction read with
  | nil => rfl
  | @cons value setting values assignments first _ ih =>
    obtain ⟨-, before, after⟩ := Switch.of_readAssignment first
    rw [List.map_cons, List.reverse_cons, List.lookup_append, ih, lastSetting, lastSetting,
      List.reverse_cons, List.findSome?_append, Variables.lookup_cons_ite, List.findSome?_singleton,
      before, after]
    simp only [List.lookup_nil, eq_comm]

/-! ## The overrides of a run -/

theorem flatMap_intercalate {α β : Type} (f : α → List β) (sep : List α) (xs : List (List α)) :
    (sep.intercalate xs).flatMap f = (sep.flatMap f).intercalate (xs.map (·.flatMap f)) := by
  induction xs with
  | nil => rfl
  | cons x xs ih =>
    cases xs with
    | nil => simp
    | cons y xs =>
      rw [List.intercalate_cons_cons, List.flatMap_append, List.flatMap_append, ih]
      simp

/-- Texts with single spaces between them are spelled with single spaces between them. -/
theorem encode_intercalate (texts : List String) :
    Utf8.encode (" ".intercalate texts) = [0x20].intercalate (texts.map Utf8.encode) := by
  rw [Utf8.encode, String.toList_intercalate, flatMap_intercalate, List.map_map]
  rfl

namespace RunRequest

variable {r : RunRequest}

theorem overrides_eq : r.overrides
    = (if r.debugDomains.isEmpty then Variables.empty
        else Variables.empty.insertText "G_MESSAGES_DEBUG" (" ".intercalate r.debugDomains)).insertAll
      (r.assignments.map fun p => (Utf8.encode p.1, Utf8.encode p.2)) := by
  rw [overrides, Variables.insertAll, List.foldl_map]
  rfl

/-- What wins over all others is in order. -/
theorem sorted_overrides (r : RunRequest) : r.overrides.Sorted := by
  rw [overrides_eq]
  refine Variables.Sorted.insertAll ?_ _
  split
  · exact Variables.sorted_empty
  · exact Variables.sorted_empty.insert _ _

/-- **An override of a run**: what the last value with the name sets it to, and else the log
domains. -/
theorem get?_overrides {values domains : List Octets} (assigned : Assigned values r.assignments)
    (listed : Texts domains r.debugDomains) (name : Octets) :
    r.overrides.get? name = (lastSetting values name).or
      (if name = Utf8.encode "G_MESSAGES_DEBUG" ∧ domains ≠ [] then
        some ([0x20].intercalate domains) else none) := by
  rw [overrides_eq, Variables.get?_insertAll, assigned.lookup_reverse]
  congr 1
  have same : r.debugDomains.isEmpty = true ↔ domains = [] := by
    rw [← listed.map_encode, List.map_eq_nil_iff, List.isEmpty_iff]
  split
  · next none => simp [same.mp none, Variables.get?, Variables.empty]
  · next some =>
    rw [Variables.insertText, Variables.get?_insert, encode_intercalate, listed.map_encode]
    simp [mt same.mpr some, Variables.get?, Variables.empty]

end RunRequest

end NestedSession
