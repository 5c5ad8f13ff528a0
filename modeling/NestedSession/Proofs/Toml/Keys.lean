import Mathlib.Data.List.Nodup
import NestedSession.Toml.Document

/-!
# Proofs/Toml/Keys — no table of a document has a key twice

A key is entered into a table only where it is not there yet, and else its value is replaced; this
is so for assignments, dotted keys and headers alike.  So no table has a key twice
(`Entries.Distinct`), which every statement keeps (`Builder.distinct_add`) if the inline tables that
it holds are so by themselves (`Statement.Distinct`), and those of a document are
(`distinct_of_document?`).
-/

namespace NestedSession.Toml

/-- **No key twice**, in a table and in the tables inside it. -/
inductive Entries.Distinct : Entries → Prop
  | intro {es : Entries} (nodup : (es.map Prod.fst).Nodup)
      (inner : ∀ e ∈ es, ∀ origin sub, e.2.2 = .table origin sub → Entries.Distinct sub) :
      Entries.Distinct es

/-- If a value is a table, it has no key twice. -/
def Tree.Distinct (v : Tree) : Prop := ∀ origin sub, v = .table origin sub → Entries.Distinct sub

theorem Tree.distinct_table {origin : Origin} {sub : Entries} (h : Entries.Distinct sub) :
    (Tree.table origin sub).Distinct := by
  rintro _ _ ⟨⟩
  exact h

theorem Tree.distinct_tables (items : List (Nat × Tree)) : (Tree.tables items).Distinct := nofun

namespace Entries

variable {es es' : Entries} {name : String} {place : Nat} {v : Tree}

theorem distinct_nil : Distinct [] := .intro .nil nofun

namespace Distinct

theorem nodup (h : Distinct es) : (es.map Prod.fst).Nodup := by
  cases h with
  | intro nodup => exact nodup

theorem value (h : Distinct es) {e : String × Nat × Tree} (there : e ∈ es) : e.2.2.Distinct := by
  cases h with
  | intro _ inner => exact inner e there

theorem value_of_lookup (h : Distinct es) (here : es.lookup name = some (place, v)) :
    v.Distinct := by
  obtain ⟨before, behind, rfl, -⟩ := List.lookup_eq_some_iff.mp here
  exact h.value (List.mem_append_right before List.mem_cons_self)

/-- The table that a key leads to. -/
theorem sub (h : Distinct es) {origin : Origin} {sub : Entries}
    (here : es.lookup name = some (place, .table origin sub)) : Distinct sub :=
  h.value_of_lookup here origin sub rfl

/-- A key that is not there yet may be entered. -/
theorem append (h : Distinct es) (fresh : es.lookup name = none) (new : v.Distinct) :
    Distinct (es ++ [(name, place, v)]) := by
  have absent : name ∉ es.map Prod.fst := by
    intro there
    obtain ⟨e, mem, rfl⟩ := List.mem_map.mp there
    exact absurd (List.lookup_eq_none_iff.mp fresh e mem) (by simp)
  refine .intro ?_ fun e there => ?_
  · rw [List.map_append, List.map_singleton, ← List.concat_eq_append]
    exact h.nodup.concat absent
  · rcases List.mem_append.mp there with there | there
    · exact h.value there
    · obtain rfl := List.mem_singleton.mp there
      exact new

/-- A key may be given another value. -/
theorem replace (h : Distinct es) (new : v.Distinct) : Distinct (es.replace name (place, v)) := by
  have keys : (es.replace name (place, v)).map Prod.fst = es.map Prod.fst := by
    rw [Entries.replace, List.map_map]
    refine List.map_congr_left fun e _ => ?_
    rw [Function.comp_apply]
    split
    · next same => exact same.symm
    · rfl
  refine .intro (keys ▸ h.nodup) fun e there => ?_
  obtain ⟨e, was, rfl⟩ := List.mem_map.mp there
  split
  · exact new
  · exact h.value was

/-! ## Changes -/

/-- **An assignment keeps keys apart.** -/
theorem assign {keys : List Key} {value : Nat × Tree} (new : value.2.Distinct) (h : Distinct es)
    (done : Entries.assign keys value es = some es') : Distinct es' := by
  fun_induction Entries.assign keys value es generalizing es' with
  | case1 | case3 | case6 | case7 => cases done
  | case2 k value es fresh =>
    cases done
    exact h.append fresh new
  | case4 k ks value es _ fresh ih =>
    obtain ⟨sub, entered, eq⟩ := Option.bind_eq_some_iff.mp done
    cases eq
    exact h.append fresh (Tree.distinct_table (ih new distinct_nil entered))
  | case5 k ks value es _ place origin sub here _ ih =>
    obtain ⟨sub', entered, eq⟩ := Option.bind_eq_some_iff.mp done
    cases eq
    exact h.replace (Tree.distinct_table (ih new (h.sub here) entered))

/-- Assignments one after the other do. -/
theorem assignAll {members : List (List Key × Nat × Tree)}
    (new : ∀ m ∈ members, m.2.2.Distinct) (h : Distinct es)
    (done : Entries.assignAll es members = some es') : Distinct es' := by
  induction members generalizing es with
  | nil =>
    cases done
    exact h
  | cons m members ih =>
    obtain ⟨first, others⟩ := List.forall_mem_cons.mp new
    obtain ⟨es₁, entered, done⟩ := Option.bind_eq_some_iff.mp done
    exact ih others (h.assign first entered) done

/-- **A header keeps keys apart**, if what it does to the table it leads to does. -/
theorem descend {change : Key → Entries → Option Entries} {keys : List Key}
    (keeps : ∀ k {es es'}, Distinct es → change k es = some es' → Distinct es') (h : Distinct es)
    (done : Entries.descend change keys es = some es') : Distinct es' := by
  fun_induction Entries.descend change keys es generalizing es' with
  | case1 | case4 | case7 | case8 => cases done
  | case2 => exact keeps _ h done
  | case3 k ks es _ fresh ih =>
    obtain ⟨sub, entered, eq⟩ := Option.bind_eq_some_iff.mp done
    cases eq
    exact h.append fresh (Tree.distinct_table (ih distinct_nil entered))
  | case5 k ks es _ place origin sub here _ ih =>
    obtain ⟨sub', entered, eq⟩ := Option.bind_eq_some_iff.mp done
    cases eq
    exact h.replace (Tree.distinct_table (ih (h.sub here) entered))
  | case6 =>
    obtain ⟨sub', -, eq⟩ := Option.bind_eq_some_iff.mp done
    cases eq
    exact h.replace (Tree.distinct_tables _)

theorem openTable {k : Key} (h : Distinct es) (done : Entries.openTable place k es = some es') :
    Distinct es' := by
  rw [Entries.openTable] at done
  split at done
  · next fresh =>
    cases done
    exact h.append fresh (Tree.distinct_table distinct_nil)
  · next here =>
    cases done
    exact h.replace (Tree.distinct_table (h.sub here))
  · cases done

theorem openElement {k : Key} (h : Distinct es) (done : Entries.openElement place k es = some es') :
    Distinct es' := by
  rw [Entries.openElement] at done
  split at done
  · next fresh =>
    cases done
    exact h.append fresh (Tree.distinct_tables _)
  · cases done
    exact h.replace (Tree.distinct_tables _)
  · cases done

/-- **A change of the table that a header opened** keeps keys apart, if it does so there. -/
theorem within {change : Entries → Option Entries} {keys : List Key}
    (keeps : ∀ {es es'}, Distinct es → change es = some es' → Distinct es') (h : Distinct es)
    (done : Entries.within change keys es = some es') : Distinct es' := by
  fun_induction Entries.within change keys es generalizing es' with
  | case1 => exact keeps h done
  | case2 k ks es place origin sub here ih =>
    obtain ⟨sub', entered, eq⟩ := Option.bind_eq_some_iff.mp done
    cases eq
    exact h.replace (Tree.distinct_table (ih (h.sub here) entered))
  | case3 =>
    obtain ⟨sub', -, eq⟩ := Option.bind_eq_some_iff.mp done
    cases eq
    exact h.replace (Tree.distinct_tables _)
  | case4 | case5 => cases done

end Distinct

end Entries

/-! ## Values -/

section

variable {v : Tree} {word s r : List Char}

theorem distinct_ofInteger (n : Int) : (ofInteger n).Distinct := by
  rw [ofInteger]
  split <;> nofun

theorem distinct_ofDigits (base : Nat) (negative : Bool) (digits : List Char) :
    (ofDigits base negative digits).Distinct := by
  rw [ofDigits]
  split
  · exact distinct_ofInteger _
  · nofun

theorem distinct_ofFloat (x : Binary64) : (ofFloat x).Distinct := by
  rw [ofFloat]
  split <;> nofun

theorem distinct_of_based? {base : Nat} (read : based? base word = some v) : v.Distinct := by
  rw [based?] at read
  split at read
  · split at read
    · cases read
      nofun
    · obtain ⟨digits, -, rfl⟩ := Option.map_eq_some_iff.mp read
      exact distinct_ofDigits _ _ _
  · cases read

theorem distinct_of_decimal? (read : decimal? word = some v) : v.Distinct := by
  simp only [decimal?] at read
  split at read
  · cases read
    nofun
  split at read
  · cases read
  split at read
  · cases read
    exact distinct_ofDigits _ _ _
  split at read
  · obtain ⟨digits, -, rfl⟩ := Option.map_eq_some_iff.mp read
    exact distinct_ofDigits _ _ _
  · cases read

theorem distinct_of_integer? (read : integer? word = some v) : v.Distinct := by
  rw [integer?.eq_def] at read
  split at read
  · exact distinct_of_based? read
  · exact distinct_of_based? read
  · exact distinct_of_based? read
  · exact distinct_of_decimal? read

theorem distinct_of_float? (read : float? word = some v) : v.Distinct := by
  simp only [float?] at read
  split at read
  · cases read
    nofun
  split at read
  · cases read
    nofun
  obtain ⟨body, -, read⟩ := Option.bind_eq_some_iff.mp read
  split at read
  · cases read
  · cases read
    exact distinct_ofFloat _

theorem distinct_of_ofWord? (read : ofWord? word = some v) : v.Distinct := by
  rw [ofWord?] at read
  split at read
  · cases read
    nofun
  split at read
  · cases read
    nofun
  split at read
  · cases read
    nofun
  rcases Option.or_eq_some_iff.mp read with read | ⟨-, read⟩
  · exact distinct_of_integer? read
  · exact distinct_of_float? read

theorem distinct_of_map {α : Type} {o : Option α} {f : α → Tree × List Char}
    (each : ∀ a, o = some a → (f a).1.Distinct) (read : o.map f = some (v, r)) : v.Distinct := by
  obtain ⟨a, found, eq⟩ := Option.map_eq_some_iff.mp read
  simpa only [eq] using each a found

/-- A scalar is no table. -/
theorem distinct_of_scalar? (read : scalar? s = some (v, r)) : v.Distinct := by
  rw [scalar?.eq_def] at read
  split at read
  iterate 2
    · refine distinct_of_map (fun _ _ => ?_) read
      nofun
  · simp only [word?] at read
    split at read
    · split at read <;> exact distinct_of_map (fun _ => distinct_of_ofWord?) read
    · exact distinct_of_map (fun _ => distinct_of_ofWord?) read

end

theorem of_assignment? {gap : List Char → Option (List Char)}
    {value : List Char → Option (Tree × List Char)} {s r : List Char} {keys : List Key}
    {place : Nat} {v : Tree} (read : assignment? gap value s = some ((keys, place, v), r)) :
    ∃ s, value s = some (v, r) := by
  obtain ⟨⟨keys, r₁⟩, -, read⟩ := Option.bind_eq_some_iff.mp read
  obtain ⟨s₁, -, read⟩ := Option.bind_eq_some_iff.mp read
  split at read
  · obtain ⟨s₂, -, read⟩ := Option.bind_eq_some_iff.mp read
    obtain ⟨⟨v, rest⟩, known, eq⟩ := Option.bind_eq_some_iff.mp read
    cases eq
    exact ⟨s₂, known⟩
  · cases read

/-- The values of an inline table are read as values are. -/
theorem of_members? {value : List Char → Option (Tree × List Char)} {fuel : Nat} {s r : List Char}
    {ms : List (List Key × Nat × Tree)} (read : members? value fuel s = some (ms, r)) :
    ∀ m ∈ ms, ∃ s r, value s = some (m.2.2, r) := by
  fun_induction members? value fuel s generalizing ms r with
  | case1 => cases read
  | case2 fuel s ih =>
    obtain ⟨s, -, read⟩ := Option.bind_eq_some_iff.mp read
    split at read
    · cases read
      nofun
    · obtain ⟨⟨m, r₁⟩, first, read⟩ := Option.bind_eq_some_iff.mp read
      obtain ⟨s₁, known⟩ := of_assignment? first
      obtain ⟨s₂, -, read⟩ := Option.bind_eq_some_iff.mp read
      split at read
      · cases read
        exact List.forall_mem_singleton.mpr ⟨s₁, _, known⟩
      · obtain ⟨⟨ms, r⟩, others, eq⟩ := Option.bind_eq_some_iff.mp read
        cases eq
        exact List.forall_mem_cons.mpr ⟨⟨s₁, _, known⟩, ih _ others⟩
      · cases read

/-- **An inline table has no key twice.** -/
theorem distinct_of_value? {levels : Nat} {s r : List Char} {v : Tree}
    (read : value? levels s = some (v, r)) : v.Distinct := by
  induction levels generalizing s r v with
  | zero => exact distinct_of_scalar? (by rwa [value?] at read)
  | succ levels ih =>
    rw [value?.eq_def] at read
    dsimp only at read
    split at read
    · obtain ⟨⟨vs, r⟩, -, eq⟩ := Option.bind_eq_some_iff.mp read
      cases eq
      nofun
    · obtain ⟨⟨ms, r⟩, members, read⟩ := Option.bind_eq_some_iff.mp read
      obtain ⟨es, entered, eq⟩ := Option.bind_eq_some_iff.mp read
      cases eq
      refine Tree.distinct_table (Entries.distinct_nil.assignAll (fun m there => ?_) entered)
      obtain ⟨s, r, read⟩ := of_members? members m there
      exact ih read
    · exact distinct_of_scalar? read

/-! ## Statements -/

/-- The value of an assignment has no key twice, if it is a table. -/
def Statement.Distinct : Statement → Prop
  | .assign _ _ v => v.Distinct
  | _ => True

theorem distinct_of_statement? {s r : List Char} {st : Statement}
    (read : statement? s = some (st, r)) : st.Distinct := by
  rw [statement?.eq_def] at read
  split at read
  iterate 4
    · cases read
      trivial
  iterate 2
    · obtain ⟨⟨keys, r₁⟩, -, read⟩ := Option.bind_eq_some_iff.mp read
      dsimp only at read
      split at read <;> cases read
      trivial
  · obtain ⟨⟨⟨keys, place, v⟩, r₁⟩, assigned, eq⟩ := Option.bind_eq_some_iff.mp read
    cases eq
    obtain ⟨s₁, known⟩ := of_assignment? assigned
    exact distinct_of_value? known

theorem distinct_of_statements? {fuel : Nat} {s : List Char} {sts : List Statement}
    (read : statements? fuel s = some sts) : ∀ st ∈ sts, st.Distinct := by
  fun_induction statements? fuel s generalizing sts with
  | case1 => cases read
  | case2 fuel s ih =>
    obtain ⟨⟨st, r⟩, first, read⟩ := Option.bind_eq_some_iff.mp read
    obtain ⟨rest, -, read⟩ := Option.bind_eq_some_iff.mp read
    have one : st.Distinct := distinct_of_statement? first
    split at read
    · cases read
      exact List.forall_mem_singleton.mpr one
    · obtain ⟨sts, others, eq⟩ := Option.bind_eq_some_iff.mp read
      cases eq
      exact List.forall_mem_cons.mpr ⟨one, ih _ others⟩

/-- **A statement keeps keys apart.** -/
theorem Builder.distinct_add {b b' : Builder} {st : Statement} (new : st.Distinct)
    (h : b.root.Distinct) (done : b.add st = some b') : b'.root.Distinct := by
  cases st with
  | blank =>
    cases done
    exact h
  | header place keys =>
    obtain ⟨root, opened, eq⟩ := Option.bind_eq_some_iff.mp done
    cases eq
    exact h.descend (fun k _ _ h => h.openTable) opened
  | element place keys =>
    obtain ⟨root, opened, eq⟩ := Option.bind_eq_some_iff.mp done
    cases eq
    exact h.descend (fun k _ _ h => h.openElement) opened
  | assign keys place v =>
    obtain ⟨root, entered, eq⟩ := Option.bind_eq_some_iff.mp done
    cases eq
    have value : (place, v).2.Distinct := new
    exact h.within (fun h => h.assign value) entered

theorem Builder.distinct_foldlM {sts : List Statement} (new : ∀ st ∈ sts, st.Distinct)
    {b b' : Builder} (h : b.root.Distinct) (run : sts.foldlM Builder.add b = some b') :
    b'.root.Distinct := by
  induction sts generalizing b with
  | nil =>
    cases run
    exact h
  | cons st sts ih =>
    obtain ⟨first, others⟩ := List.forall_mem_cons.mp new
    obtain ⟨b₁, added, run⟩ := Option.bind_eq_some_iff.mp run
    exact ih others (distinct_add first h added) run

/-- **No table of a document has a key twice.** -/
theorem distinct_of_document? {source : List Char} {es : Entries}
    (read : document? source = some es) : es.Distinct := by
  obtain ⟨sts, statements, built⟩ := Option.bind_eq_some_iff.mp read
  obtain ⟨b, run, rfl⟩ := Option.map_eq_some_iff.mp built
  exact Builder.distinct_foldlM (distinct_of_statements? statements) Entries.distinct_nil run

end NestedSession.Toml
