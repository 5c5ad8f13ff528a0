import NestedSession.Environment.Layers

/-!
# Proofs/Environment/Layers — which layer a variable comes from

Settings that are entered one after the other win over those before them (`get?_insertAll`).  The
overrides of a child are entered from a set of variables, each name once and in order
(`Variables.Sorted`), so there the order of entering does not matter (`get?_insertAll_entries`).
`get?_layered` follows a name through all layers.
-/

namespace NestedSession.Variables

/-! ## Names in order -/

/-- **Variables in order**: the names increase strictly, so no name is there twice. -/
def Sorted (vars : Variables) : Prop := vars.entries.Pairwise fun e f => e.1 < f.1

theorem lt_of_not_lt {a b : Octets} (ne : a ≠ b) (h : ¬ a < b) : b < a :=
  (List.le_iff_lt_or_eq.mp (List.not_lt.mp h)).resolve_right fun same => ne same.symm

theorem mem_insertEntry {name value : Octets} {es : List (Octets × Octets)} {e : Octets × Octets}
    (h : e ∈ insertEntry name value es) : e = (name, value) ∨ e ∈ es := by
  induction es with
  | nil => exact .inl (List.mem_singleton.mp h)
  | cons first es ih =>
    obtain ⟨n, v⟩ := first
    rw [insertEntry] at h
    split at h
    · rcases List.mem_cons.mp h with rfl | old
      · exact .inl rfl
      · exact .inr (List.mem_cons_of_mem _ old)
    split at h
    · exact List.mem_cons.mp h
    · rcases List.mem_cons.mp h with rfl | old
      · exact .inr List.mem_cons_self
      · exact (ih old).imp_right (List.mem_cons_of_mem _)

/-- Entering a variable keeps the order. -/
theorem Sorted.insert {vars : Variables} (sorted : vars.Sorted) (name value : Octets) :
    (vars.insert name value).Sorted := by
  obtain ⟨es⟩ := vars
  change (insertEntry name value es).Pairwise _
  change es.Pairwise _ at sorted
  induction es with
  | nil => exact List.pairwise_singleton _ _
  | cons first es ih =>
    obtain ⟨n, v⟩ := first
    obtain ⟨before, rest⟩ := List.pairwise_cons.mp sorted
    rw [insertEntry]
    split
    · next same =>
      subst same
      exact List.pairwise_cons.mpr ⟨before, rest⟩
    · next other =>
      split
      · next first =>
        refine List.pairwise_cons.mpr ⟨fun e there => ?_, sorted⟩
        rcases List.mem_cons.mp there with rfl | later
        · exact first
        · exact List.lt_trans first (before e later)
      · next behind =>
        refine List.pairwise_cons.mpr ⟨fun e there => ?_, ih rest⟩
        rcases mem_insertEntry there with rfl | later
        · exact lt_of_not_lt other behind
        · exact before e later

theorem Sorted.insertAll {vars : Variables} (sorted : vars.Sorted)
    (pairs : List (Octets × Octets)) : (vars.insertAll pairs).Sorted := by
  induction pairs generalizing vars with
  | nil => exact sorted
  | cons p pairs ih => exact ih (sorted.insert p.1 p.2)

theorem sorted_empty : empty.Sorted := .nil

/-- The variables of a list of settings are in order. -/
theorem sorted_ofList (pairs : List (Octets × Octets)) : (ofList pairs).Sorted :=
  sorted_empty.insertAll pairs

/-- What is entered under a name is what the name is found set to. -/
theorem Sorted.mem_entries_iff {vars : Variables} (sorted : vars.Sorted) (e : Octets × Octets) :
    e ∈ vars.entries ↔ vars.get? e.1 = some e.2 := by
  rw [get?, List.lookup_eq_some_iff]
  constructor
  · intro there
    obtain ⟨before, behind, split⟩ := List.append_of_mem there
    refine ⟨before, behind, split, fun f earlier => bne_iff_ne.mpr fun same => ?_⟩
    rw [Sorted, split, List.pairwise_append] at sorted
    exact List.lt_irrefl f.1 (same ▸ sorted.2.2 f earlier e List.mem_cons_self)
  · rintro ⟨before, behind, split, -⟩
    exact split ▸ List.mem_append_right before List.mem_cons_self

/-- **Variables in order are what their names are set to.** -/
theorem Sorted.ext {vars others : Variables} (sorted : vars.Sorted) (sorted' : others.Sorted)
    (same : ∀ name, vars.get? name = others.get? name) : vars = others := by
  have distinct {vars : Variables} (sorted : vars.Sorted) : vars.entries.Nodup := by
    refine List.Pairwise.imp ?_ sorted
    rintro e f lt rfl
    exact List.lt_irrefl e.1 lt
  have perm : vars.entries.Perm others.entries :=
    (List.perm_ext_iff_of_nodup (distinct sorted) (distinct sorted')).mpr fun e => by
      rw [sorted.mem_entries_iff, sorted'.mem_entries_iff, same]
  have equal : vars.entries = others.entries := perm.eq_of_pairwise
    (fun _ _ _ _ lt gt => absurd (List.lt_trans lt gt) (List.lt_irrefl _)) sorted sorted'
  cases vars
  cases others
  exact congrArg Variables.mk equal

/-! ## One setting after the other -/

/-- **The last setting of a name wins**, and what is not set stays. -/
theorem get?_insertAll (vars : Variables) (pairs : List (Octets × Octets)) (name : Octets) :
    (vars.insertAll pairs).get? name = (pairs.reverse.lookup name).or (vars.get? name) := by
  induction pairs generalizing vars with
  | nil => rfl
  | cons p pairs ih =>
    have step : vars.insertAll (p :: pairs) = (vars.insert p.1 p.2).insertAll pairs := rfl
    rw [step, ih, get?_insert, List.reverse_cons, List.lookup_append, lookup_cons_ite]
    by_cases same : name = p.1
    · simp [same]
    · simp [same]

/-- Where each name is there once, it does not matter from which end it is looked for. -/
theorem Sorted.lookup_reverse {vars : Variables} (sorted : vars.Sorted) (name : Octets) :
    vars.entries.reverse.lookup name = vars.get? name := by
  obtain ⟨es⟩ := vars
  change es.Pairwise _ at sorted
  change es.reverse.lookup name = es.lookup name
  induction es with
  | nil => rfl
  | cons e es ih =>
    obtain ⟨before, rest⟩ := List.pairwise_cons.mp sorted
    rw [List.reverse_cons, List.lookup_append, ih rest, lookup_cons_ite, lookup_cons_ite]
    by_cases same : name = e.1
    · have absent : es.lookup name = none := List.lookup_eq_none_iff.mpr fun f later =>
        bne_iff_ne.mpr fun eq => List.lt_irrefl f.1 (by simpa [← same, eq] using before f later)
      simp [← same, absent]
    · simp [same]

/-- **Entering a set of variables** lets each of them win. -/
theorem get?_insertAll_entries {others : Variables} (sorted : others.Sorted) (vars : Variables)
    (name : Octets) :
    (vars.insertAll others.entries).get? name = (others.get? name).or (vars.get? name) := by
  rw [get?_insertAll, sorted.lookup_reverse]

/-- What is not entered stays as it is, in whatever order the rest is entered. -/
theorem get?_insertAll_of_unnamed (vars : Variables) {others : Variables} {name : Octets}
    (silent : others.get? name = none) :
    (vars.insertAll others.entries).get? name = vars.get? name := by
  have nowhere : others.entries.reverse.lookup name = none := by
    rw [get?, List.lookup_eq_none_iff] at silent
    exact List.lookup_eq_none_iff.mpr fun e there => silent e (List.mem_reverse.mp there)
  rw [get?_insertAll, nowhere, Option.none_or]

/-- Variables in order are those of the list of their entries. -/
theorem Sorted.ofList_entries {vars : Variables} (sorted : vars.Sorted) :
    ofList vars.entries = vars :=
  (sorted_ofList _).ext sorted fun name => by
    have entered : ofList vars.entries = empty.insertAll vars.entries := rfl
    rw [entered, get?_insertAll_entries sorted]
    exact Option.or_none

/-! ## All layers -/

/-- The variables of a child are in order. -/
theorem Sorted.layered {ambient : Variables} (sorted : ambient.Sorted) (buildDir : Path)
    (backend : Backend) (overrides : Variables) :
    (ambient.layered buildDir backend overrides).Sorted := by
  rw [Variables.layered]
  refine Sorted.insertAll (Sorted.insert ?_ _ _) _
  split
  · exact sorted.insert _ _
  · exact (sorted.insert _ _).insert _ _

/-- **A variable of a child**: an override if there is one, and else what a nested session needs,
or what is around the program. -/
theorem get?_layered {overrides : Variables} (sorted : overrides.Sorted) (ambient : Variables)
    (buildDir : Path) (backend : Backend) (name : Octets) :
    (ambient.layered buildDir backend overrides).get? name = (overrides.get? name).or (
      if name = Utf8.encode "WLR_BACKENDS" then some (Utf8.encode backend.token)
      else if name = Utf8.encode "XDG_RUNTIME_DIR" ∧ ambient.runtimeDir? = none then some buildDir
      else if name = Utf8.encode "GSETTINGS_BACKEND" then some (Utf8.encode "memory")
      else ambient.get? name) := by
  rw [layered, get?_insertAll_entries sorted]
  congr 1
  rw [insertText, get?_insert]
  split
  · rfl
  · cases around : ambient.runtimeDir? with
    | some dir => simp [insertText, get?_insert]
    | none => simp [insertText, get?_insert]

end NestedSession.Variables
