import Mathlib.Data.List.Forall2
import Mathlib.Logic.Relation
import NestedSession.Proofs.Toml.Values

/-!
# Proofs/Toml/Documents — a document is read as the tables that were written

A document is read line by line: `Line` says what one line does to the tables, and a document whose
lines lead to its end is read as the tables that they make (`document?_of_lines`).  A section is a
header and its assignments (`Part`); each assignment carries the reason why its value is read
(`Assignment`), so the sections of a document are read without looking at any value again
(`document?_writeParts`).
-/

namespace NestedSession.Toml

open Relation (ReflTransGen)

/-! ## Lines -/

/-- How far the reading of a document is: the characters that are left, and the tables so far. -/
structure Progress where
  left : List Char
  built : Builder

/-- **One line of a document**: its statement is read and taken into the tables. -/
inductive Line : Progress → Progress → Prop where
  | mk {s r rest : List Char} {b b' : Builder} {st : Statement}
    (read : statement? (skipBlank s) = some (st, r)) (ended : afterLine? r = some rest)
    (taken : b.add st = some b') (shorter : rest.length < s.length) : Line ⟨s, b⟩ ⟨rest, b'⟩

/-- Nothing follows the end of a document. -/
theorem eq_of_lines_nil {b b' : Builder} (lines : ReflTransGen Line ⟨[], b⟩ ⟨[], b'⟩) : b = b' := by
  rcases lines.cases_head with same | ⟨p, line, -⟩
  · exact congrArg Progress.built same
  · cases line with
    | mk _ _ _ shorter => exact absurd shorter (Nat.not_lt_zero _)

/-- **Lines that lead to the end of a document** are its statements, and make its tables. -/
theorem statements?_of_lines {p : Progress} {b : Builder} (lines : ReflTransGen Line p ⟨[], b⟩) :
    p.left ≠ [] → ∀ fuel, p.left.length ≤ fuel →
      ∃ sts, statements? fuel p.left = some sts ∧ sts.foldlM Builder.add p.built = some b := by
  induction lines using ReflTransGen.head_induction_on with
  | refl => exact fun some_ => absurd rfl some_
  | head line lines ih =>
    intro _ fuel enough
    cases line with
    | @mk s r rest b₀ b₁ st read ended taken shorter =>
      -- every line has a character, so there is a step for each
      dsimp only at enough ih ⊢
      obtain ⟨fuel, rfl⟩ := Nat.exists_eq_succ_of_ne_zero
        (Nat.ne_zero_of_lt (Nat.lt_of_lt_of_le shorter enough))
      rw [statements?]
      simp only [read, ended, Option.bind_eq_bind, Option.bind_some]
      rcases rest with _ | ⟨c, rest⟩
      · rw [if_pos List.isEmpty_nil]
        refine ⟨[st], rfl, ?_⟩
        rw [List.foldlM_cons, taken, ← eq_of_lines_nil lines]
        rfl
      · obtain ⟨sts, others, folded⟩ := ih (by simp) fuel (by omega)
        rw [if_neg (by simp), others]
        refine ⟨st :: sts, rfl, ?_⟩
        rw [List.foldlM_cons, taken]
        exact folded

/-- **A document whose lines lead to its end** is read as the tables that they make. -/
theorem document?_of_lines {source : List Char} {b : Builder} (some_ : source ≠ [])
    (unmarked : source.head? ≠ some '\uFEFF')
    (lines : ReflTransGen Line ⟨source, ⟨[], []⟩⟩ ⟨[], b⟩) : document? source = some b.root := by
  have body : afterMark source = source := by
    rw [afterMark.eq_def]
    split
    · exact absurd rfl unmarked
    · rfl
  obtain ⟨sts, read, built⟩ := statements?_of_lines lines some_ _ (Nat.le_succ _)
  rw [document?, body]
  simp only [read, Option.bind_eq_bind, Option.bind_some]
  rw [build?, built]
  rfl

/-! ## Keys without quotes -/

/-- Whether a name may stand as a key without quotes. -/
def isBareName (name : String) : Bool := !name.toList.isEmpty && name.toList.all isBare

theorem of_isBareName {name : String} (bare : isBareName name = true) :
    ∃ c s, name.toList = c :: s ∧ ∀ d ∈ c :: s, isBare d = true := by
  rw [isBareName, Bool.and_eq_true, Bool.not_eq_true', List.isEmpty_eq_false_iff] at bare
  obtain ⟨c, s, eq⟩ := List.exists_cons_of_ne_nil bare.1
  exact ⟨c, s, eq, List.all_eq_true.mp (eq ▸ bare.2)⟩

/-- What has its meaning on a line is no part of a name. -/
theorem isBare_apart {c : Char} (bare : isBare c = true) :
    c ≠ '"' ∧ c ≠ '\'' ∧ c ≠ '[' ∧ c ≠ '\n' ∧ c ≠ '\r' ∧ c ≠ '#' ∧ c ≠ ' ' ∧ c ≠ '\t' := by
  refine ⟨?_, ?_, ?_, ?_, ?_, ?_, ?_, ?_⟩ <;> rintro rfl <;> exact absurd bare (by decide)

theorem skipBlank_cons {c : Char} (space : c ≠ ' ') (tab : c ≠ '\t') (s : List Char) :
    skipBlank (c :: s) = c :: s := by
  rw [skipBlank, List.dropWhile_cons_of_neg (by simp [space, tab])]

/-- **A name is read as a key of one part** up to what cannot belong to it. -/
theorem key?_of_isBareName {name : String} (bare : isBareName name = true) {c : Char}
    (ends : isBare c = false) {s : List Char} (undotted : (skipBlank (c :: s)).head? ≠ some '.') :
    ∃ place, key? (name.toList ++ c :: s) = some ([⟨name, place⟩], skipBlank (c :: s)) := by
  obtain ⟨d, t, eq, inside⟩ := of_isBareName bare
  have part : keyPart? (name.toList ++ c :: s) = some (name, c :: s) := by
    obtain ⟨double, single, -⟩ := isBare_apart (inside d List.mem_cons_self)
    have back : String.ofList (d :: t) = name := eq ▸ String.ofList_toList
    have neg : ¬ isBare c = true := Bool.eq_false_iff.mp ends
    rw [eq, keyPart?.eq_def]
    split
    · next first => exact absurd (List.cons.inj first).1 double
    · next first => exact absurd (List.cons.inj first).1 single
    · rw [List.takeWhile_append_of_pos inside, List.dropWhile_append_of_pos inside,
        List.takeWhile_cons_of_neg neg, List.dropWhile_cons_of_neg neg, List.append_nil, ← back]
      rfl
  refine ⟨(name.toList ++ c :: s).length, ?_⟩
  rw [key?, maxNesting, keyParts?, part]
  simp only [Option.bind_eq_bind, Option.bind_some]
  split
  · next dot => exact absurd (by rw [dot]; rfl) undotted
  · rfl

/-! ## Values behind their keys -/

/-- **What is written behind a key** is read as a value that means what it should, whatever follows
its line. -/
def ReadsAs (written : List Char) (means : Tree → Prop) : Prop :=
  ∀ rest, ∃ v, value? maxNesting (skipBlank (written ++ '\n' :: rest)) = some (v, '\n' :: rest)
    ∧ means v

theorem ReadsAs.imp {written : List Char} {means means' : Tree → Prop}
    (reads : ReadsAs written means) (weaker : ∀ v, means v → means' v) : ReadsAs written means' :=
  fun rest =>
    have ⟨v, read, meant⟩ := reads rest
    ⟨v, read, weaker v meant⟩

theorem readsAs_writeBool (b : Bool) : ReadsAs (writeBool b) (· = .boolean b) := fun rest => by
  have start : skipBlank (writeBool b ++ '\n' :: rest) = writeBool b ++ '\n' :: rest := by
    cases b <;> rfl
  exact ⟨_, by rw [start, value?_writeBool], rfl⟩

theorem readsAs_writeNat {n : Nat} (small : n < UInt64.size) :
    ReadsAs (writeNat n) (· = .integer n) := fun rest => by
  have start : skipBlank (writeNat n ++ '\n' :: rest) = writeNat n ++ '\n' :: rest := by
    obtain ⟨c, s, eq, digit⟩ := Text.exists_head_toDigits n
    rw [writeNat, eq]
    refine skipBlank_cons ?_ ?_ _ <;> rintro rfl <;> exact absurd digit (by decide)
  exact ⟨_, by rw [start, value?_writeNat small], rfl⟩

theorem readsAs_writeString (text : String) :
    ReadsAs (writeString text) (· = .text text) := fun rest => by
  have start : skipBlank (writeString text ++ '\n' :: rest) = writeString text ++ '\n' :: rest := by
    rcases exists_head_writeString text with ⟨s, eq⟩ | ⟨s, eq⟩ <;> rw [eq] <;> rfl
  exact ⟨_, by rw [start, value?_writeString text maxNesting (by decide) (by decide)], rfl⟩

theorem readsAs_writeStrings (ts : List String) :
    ReadsAs (writeStrings ts) fun v => ∃ items, v = .array items
      ∧ items.map Prod.snd = ts.map .text := fun rest => by
  have start : skipBlank (writeStrings ts ++ '\n' :: rest) = writeStrings ts ++ '\n' :: rest := by
    rcases ts with _ | ⟨t, _ | ⟨t', ts⟩⟩ <;> rfl
  obtain ⟨items, read, texts⟩ := value?_writeStrings ts (maxNesting - 1) ('\n' :: rest)
  exact ⟨.array items, by rw [start]; exact read, items, rfl, texts⟩

/-! ## The lines of a section -/

/-- A line without anything on it changes nothing. -/
theorem line_blank (rest : List Char) (b : Builder) : Line ⟨'\n' :: rest, b⟩ ⟨rest, b⟩ :=
  .mk rfl rfl rfl (Nat.lt_succ_self _)

theorem statement?_writeHeader {name : String} (bare : isBareName name = true)
    (rest : List Char) :
    ∃ place k, k.name = name ∧ statement? (skipBlank (writeHeader name ++ rest))
      = some (.header place [k], '\n' :: rest) := by
  obtain ⟨place, key⟩ := key?_of_isBareName bare (c := ']') (by decide) (s := '\n' :: rest)
    (by simp [skipBlank])
  obtain ⟨d, t, eq, inside⟩ := of_isBareName bare
  obtain ⟨-, -, bracket, -, -, -, space, tab⟩ := isBare_apart (inside d List.mem_cons_self)
  have written : writeHeader name ++ rest = '[' :: (name.toList ++ ']' :: '\n' :: rest) := by
    simp [writeHeader]
  have start : skipBlank (d :: t ++ ']' :: '\n' :: rest) = d :: t ++ ']' :: '\n' :: rest :=
    skipBlank_cons space tab _
  rw [written, skipBlank_cons (by decide) (by decide)]
  rw [eq] at key ⊢
  refine ⟨('[' :: (d :: t ++ ']' :: '\n' :: rest)).length, ⟨name, place⟩, rfl, ?_⟩
  rw [statement?.eq_def]
  split
  · next h => cases h
  · next h => cases h
  · next h => cases h
  · next h => cases h
  · next h => exact absurd (List.cons.inj (List.cons.inj h).2).1 bracket
  · next h =>
    rw [← (List.cons.inj h).2, start, key]
    rfl
  · next unmatched => exact absurd rfl (unmatched _)

/-- **A header opens a table** of a name that is not there yet. -/
theorem line_header {name : String} (bare : isBareName name = true) {b : Builder}
    (fresh : b.root.lookup name = none) (rest : List Char) :
    ∃ place k, k.name = name ∧ Line ⟨writeHeader name ++ rest, b⟩
      ⟨rest, ⟨b.root ++ [(name, place, .table .header [])], [k]⟩⟩ := by
  obtain ⟨place, k, rfl, read⟩ := statement?_writeHeader bare rest
  refine ⟨place, k, rfl, .mk read rfl ?_ ?_⟩
  · rw [Builder.add, Entries.descend, Entries.openTable, fresh]
    rfl
  · simp only [writeHeader, List.length_cons, List.length_append]
    omega

/-! ## The table that was opened last -/

theorem lookup_append_of_fresh {name : String} {es : Entries} (fresh : es.lookup name = none)
    (value : Nat × Tree) : (es ++ [(name, value)]).lookup name = some value := by
  rw [List.lookup_append, fresh, List.lookup_cons_self]
  rfl

theorem replace_append_of_fresh {name : String} {es : Entries} (fresh : es.lookup name = none)
    (value value' : Nat × Tree) :
    Entries.replace name value' (es ++ [(name, value)]) = es ++ [(name, value')] := by
  have others : es.map (fun e => if e.1 = name then (name, value') else e) = es := by
    refine (List.map_congr_left fun e there => if_neg fun same => ?_).trans (List.map_id es)
    exact absurd (List.lookup_eq_none_iff.mp fresh e there) (by simp [same])
  rw [Entries.replace, List.map_append, others, List.map_singleton, if_pos rfl]

/-- **A change of the table that was opened last** leaves the others as they are. -/
theorem within_append_of_fresh {k : Key} {es : Entries} (fresh : es.lookup k.name = none)
    (place : Nat) (sub : Entries) {sub' : Entries} {change : Entries → Option Entries}
    (changed : change sub = some sub') :
    Entries.within change [k] (es ++ [(k.name, place, .table .header sub)])
      = some (es ++ [(k.name, place, .table .header sub')]) := by
  rw [Entries.within, lookup_append_of_fresh fresh]
  dsimp only
  rw [Entries.within, changed, Option.bind_eq_bind, Option.bind_some,
    replace_append_of_fresh fresh]

/-! ## Assignments -/

/-- **An assignment as it is written**: its key needs no quotes, and what stands behind it is read
as a value that means what it should, whatever follows. -/
structure Assignment where
  name : String
  written : List Char
  means : Tree → Prop
  bare : isBareName name = true
  reads : ReadsAs written means

namespace Assignment

/-- The line of an assignment. -/
def line (a : Assignment) : List Char := writeLine a.name a.written

/-- An entry of a table that means what an assignment should. -/
def Holds (a : Assignment) (e : String × Nat × Tree) : Prop := e.1 = a.name ∧ a.means e.2.2

/-- What begins with a name is an assignment. -/
theorem statement?_of_assignment? {c : Char} (bare : isBare c = true) {s r : List Char}
    {keys : List Key} {place : Nat} {v : Tree}
    (read : assignment? (some ∘ skipBlank) (value? maxNesting) (c :: s)
      = some ((keys, place, v), r)) :
    statement? (c :: s) = some (.assign keys place v, r) := by
  obtain ⟨-, -, bracket, line, return_, hash, -, -⟩ := isBare_apart bare
  rw [statement?.eq_def]
  split
  · next h => cases h
  · next h => exact absurd (List.cons.inj h).1 line
  · next h => exact absurd (List.cons.inj h).1 return_
  · next h => exact absurd (List.cons.inj h).1 hash
  · next h => exact absurd (List.cons.inj h).1 bracket
  · next h => exact absurd (List.cons.inj h).1 bracket
  · simp only [read, Option.bind_eq_bind, Option.bind_some]

theorem statement?_line (a : Assignment) (rest : List Char) :
    ∃ k place v, k.name = a.name ∧ a.means v
      ∧ statement? (skipBlank (a.line ++ rest)) = some (.assign [k] place v, '\n' :: rest) := by
  obtain ⟨v, value, means⟩ := a.reads rest
  obtain ⟨keyPlace, key⟩ := key?_of_isBareName a.bare (c := ' ') (by decide)
    (s := '=' :: ' ' :: (a.written ++ '\n' :: rest)) (by simp [skipBlank])
  obtain ⟨d, t, eq, inside⟩ := of_isBareName a.bare
  have first : isBare d = true := inside d List.mem_cons_self
  obtain ⟨-, -, -, -, -, -, space, tab⟩ := isBare_apart first
  have written : a.line ++ rest
      = a.name.toList ++ ' ' :: '=' :: ' ' :: (a.written ++ '\n' :: rest) := by
    simp [Assignment.line, writeLine]
  have blank (s : List Char) : skipBlank (' ' :: s) = skipBlank s := rfl
  have equals (s : List Char) : skipBlank ('=' :: s) = '=' :: s :=
    skipBlank_cons (by decide) (by decide) s
  rw [written]
  rw [eq] at key ⊢
  rw [List.cons_append, skipBlank_cons space tab]
  refine ⟨⟨a.name, keyPlace⟩, (skipBlank (a.written ++ '\n' :: rest)).length, v, rfl, means,
    statement?_of_assignment? first ?_⟩
  rw [← List.cons_append, assignment?, key]
  simp only [Option.bind_eq_bind, Option.bind_some, Function.comp_apply, blank, equals, value]

/-- **An assignment enters the table that was opened last**, if its name is not there yet. -/
theorem progress (a : Assignment) {k : Key} {es sub : Entries} (fresh : es.lookup k.name = none)
    (new : sub.lookup a.name = none) (place : Nat) (rest : List Char) :
    ∃ e, a.Holds e ∧
      Line ⟨a.line ++ rest, ⟨es ++ [(k.name, place, .table .header sub)], [k]⟩⟩
        ⟨rest, ⟨es ++ [(k.name, place, .table .header (sub ++ [e]))], [k]⟩⟩ := by
  obtain ⟨key, valuePlace, v, named, means, read⟩ := a.statement?_line rest
  refine ⟨(a.name, valuePlace, v), ⟨rfl, means⟩, .mk read rfl ?_ ?_⟩
  · have entered : Entries.assign [key] (valuePlace, v) sub
        = some (sub ++ [(a.name, valuePlace, v)]) := by
      rw [Entries.assign, named, new]
    rw [Builder.add]
    dsimp only
    rw [within_append_of_fresh fresh place sub entered]
    rfl
  · simp only [Assignment.line, writeLine, List.length_cons, List.length_append]
    omega

end Assignment

/-! ## Sections -/

theorem lookup_eq_none_of_not_mem {name : String} {es : Entries} (absent : name ∉ es.map Prod.fst) :
    es.lookup name = none :=
  List.lookup_eq_none_iff.mpr fun e there => by
    rw [bne_iff_ne]
    exact fun same => absent (same ▸ List.mem_map_of_mem there)

/-- **The assignments below a header** enter its table one after the other. -/
theorem lines_assignments {k : Key} {es : Entries} (fresh : es.lookup k.name = none) (place : Nat)
    (as : List Assignment) (sub : Entries)
    (distinct : (sub.map Prod.fst ++ as.map Assignment.name).Nodup) (rest : List Char) :
    ∃ more, List.Forall₂ Assignment.Holds as more ∧
      ReflTransGen Line
        ⟨as.flatMap Assignment.line ++ rest, ⟨es ++ [(k.name, place, .table .header sub)], [k]⟩⟩
        ⟨rest, ⟨es ++ [(k.name, place, .table .header (sub ++ more))], [k]⟩⟩ := by
  -- the table that was opened last holds `sub`, and it stays the last one
  induction as generalizing sub with
  | nil => exact ⟨[], .nil, by rw [List.append_nil]; exact .refl⟩
  | cons a as ih =>
    have new : a.name ∉ sub.map Prod.fst := fun there =>
      (List.nodup_append.mp distinct).2.2 _ there _ List.mem_cons_self rfl
    obtain ⟨e, holds, line⟩ := a.progress fresh (lookup_eq_none_of_not_mem new) place
      (as.flatMap Assignment.line ++ rest)
    obtain ⟨more, others, lines⟩ := ih (sub ++ [e]) (by
      rw [List.map_append, List.map_singleton, holds.1, List.append_assoc]
      exact distinct)
    refine ⟨e :: more, .cons holds others, ?_⟩
    rw [List.flatMap_cons, List.append_assoc]
    rw [List.append_assoc] at lines
    exact .head line lines

/-- **A section as it is written**: a header, and assignments of different names. -/
structure Part where
  name : String
  assignments : List Assignment
  bare : isBareName name = true
  distinct : (assignments.map Assignment.name).Nodup

namespace Part

/-- The lines of a section. -/
def lines (p : Part) : List Char := writeHeader p.name ++ p.assignments.flatMap Assignment.line

/-- An entry of a document that holds what a section should. -/
def Holds (p : Part) (e : String × Nat × Tree) : Prop :=
  e.1 = p.name ∧ ∃ es, e.2.2 = .table .header es ∧ List.Forall₂ Assignment.Holds p.assignments es

/-- **A section is read as a table** with what it gives. -/
theorem progress (p : Part) {b : Builder} (fresh : b.root.lookup p.name = none)
    (rest : List Char) :
    ∃ e current, p.Holds e ∧
      ReflTransGen Line ⟨p.lines ++ rest, b⟩ ⟨rest, ⟨b.root ++ [e], current⟩⟩ := by
  obtain ⟨place, k, named, header⟩ :=
    line_header p.bare fresh (p.assignments.flatMap Assignment.line ++ rest)
  rw [← named] at fresh header
  obtain ⟨es, holds, entries⟩ := lines_assignments fresh place p.assignments [] p.distinct rest
  refine ⟨(k.name, place, .table .header es), [k], ⟨named, es, rfl, holds⟩, ?_⟩
  rw [Part.lines, List.append_assoc, ← named]
  exact .head header entries

end Part

/-- Sections with an empty line between two. -/
def writeParts (ps : List Part) : List Char := List.intercalate ['\n'] (ps.map Part.lines)

theorem lines_parts (ps : List Part) (b : Builder)
    (distinct : (b.root.map Prod.fst ++ ps.map Part.name).Nodup) :
    ∃ es current, List.Forall₂ Part.Holds ps es ∧
      ReflTransGen Line ⟨writeParts ps, b⟩ ⟨[], ⟨b.root ++ es, current⟩⟩ := by
  induction ps generalizing b with
  | nil => exact ⟨[], b.current, .nil, by rw [List.append_nil]; exact .refl⟩
  | cons p ps ih =>
    have new : p.name ∉ b.root.map Prod.fst := fun there =>
      (List.nodup_append.mp distinct).2.2 _ there _ List.mem_cons_self rfl
    have fresh := lookup_eq_none_of_not_mem new
    rcases ps with _ | ⟨q, ps⟩
    · obtain ⟨e, current, holds, lines⟩ := p.progress fresh []
      exact ⟨[e], current, .cons holds .nil, lines⟩
    · obtain ⟨e, current, holds, lines⟩ := p.progress fresh ('\n' :: writeParts (q :: ps))
      obtain ⟨es, last, others, more⟩ := ih ⟨b.root ++ [e], current⟩ (by
        rw [List.map_append, List.map_singleton, holds.1, List.append_assoc]
        exact distinct)
      refine ⟨e :: es, last, .cons holds others, ?_⟩
      have written : writeParts (p :: q :: ps) = p.lines ++ '\n' :: writeParts (q :: ps) := by
        simp [writeParts, List.intercalate_cons_cons]
      rw [List.append_assoc] at more
      rw [written]
      exact lines.trans (.head (line_blank _ _) more)

/-- **A document of sections is read as a table for each**, with what it gives. -/
theorem document?_writeParts {ps : List Part} (some_ : ps ≠ [])
    (distinct : (ps.map Part.name).Nodup) :
    ∃ es, document? (writeParts ps) = some es ∧ List.Forall₂ Part.Holds ps es := by
  obtain ⟨es, current, holds, lines⟩ := lines_parts ps ⟨[], []⟩ distinct
  obtain ⟨p, ps, rfl⟩ := List.exists_cons_of_ne_nil some_
  obtain ⟨s, bracket⟩ : ∃ s, writeParts (p :: ps) = '[' :: s := by
    rcases ps with _ | ⟨q, ps⟩
    · exact ⟨_, rfl⟩
    · exact ⟨_, by simp only [writeParts, List.map_cons, List.intercalate_cons_cons]; rfl⟩
  have read := document?_of_lines (by simp [bracket]) (by simp [bracket]) lines
  exact ⟨es, read, holds⟩

end NestedSession.Toml
