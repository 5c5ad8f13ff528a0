import Mathlib.Data.List.Infix
import NestedSession.Text.Search

/-!
# Proofs/Text/Lines — the lines of a text, and the markers in them

`Text.Lined` says what the lines of a text are, from its beginning on: a line goes up to the first
line feed, without the one carriage return that may stand right before it, and what follows the last
line feed is a line if it is not empty.  Every text is broken so in one way only, and that is
`Text.lines` (`Text.lined_iff`).

What does not hold a character lies before it or behind it (`infix_append_cons_iff`).  So a marker
without line feeds is in a text exactly if it is in one of its lines (`Text.exists_line_iff`),
unless it ends in a carriage return that a line may lose; and the markers for which that is so,
whatever the text, are these and no others (`Text.forall_linesWith_iff`).
-/

namespace NestedSession

/-- **What does not hold a character lies before it or behind it.** -/
theorem infix_append_cons_iff {α : Type} {x : α} {m : List α} (nonempty : m ≠ []) (clear : x ∉ m)
    (xs ys : List α) : m <:+: xs ++ x :: ys ↔ m <:+: xs ∨ m <:+: ys := by
  have beginning {l rest : List α} (split : rest <+: x :: ys) (part : ∀ c ∈ rest, c ∈ m)
      (whole : m = l ++ rest) : m = l := by
    rcases List.prefix_cons_iff.mp split with rfl | ⟨more, rfl, -⟩
    · exact whole.trans (List.append_nil l)
    · exact absurd (part x List.mem_cons_self) clear
  constructor
  · intro h
    rcases List.infix_append_iff.mp h with before | behind | ⟨l, rest, whole, suffix, split⟩
    · exact .inl before
    · rcases List.infix_cons_iff.mp behind with split | behind
      · exact absurd (beginning (l := []) split (fun c hc => hc) rfl) nonempty
      · exact .inr behind
    · have part : ∀ c ∈ rest, c ∈ m := fun c hc => whole ▸ List.mem_append_right l hc
      exact .inl (beginning split part whole ▸ suffix.isInfix)
  · rintro (before | behind)
    · exact List.infix_append_of_infix_left before
    · exact List.infix_append_of_infix_right (List.infix_cons behind)

namespace Text

/-! ## What lines are -/

/-- **The lines of a text**, from its beginning on. -/
inductive Lined : List Char → List (List Char) → Prop
  /-- Nothing has no lines. -/
  | nil : Lined [] []
  /-- A line that ends in a line feed alone. -/
  | feed {line rest : List Char} {behind : List (List Char)} (unbroken : '\n' ∉ line)
      (plain : line.getLast? ≠ some '\r') (follow : Lined rest behind) :
      Lined (line ++ '\n' :: rest) (line :: behind)
  /-- A line that ends in a carriage return and a line feed.  Another carriage return before them is
  part of the line. -/
  | returned {line rest : List Char} {behind : List (List Char)} (unbroken : '\n' ∉ line)
      (follow : Lined rest behind) : Lined (line ++ '\r' :: '\n' :: rest) (line :: behind)
  /-- A line that does not end, with all that it holds. -/
  | unended {line : List Char} (unbroken : '\n' ∉ line) (some : line ≠ []) : Lined line [line]

variable {text : List Char} {ls : List (List Char)}

/-- No line holds a line feed. -/
theorem Lined.unbroken (h : Lined text ls) : ∀ line ∈ ls, '\n' ∉ line := by
  induction h with
  | nil => exact fun _ part => nomatch part
  | feed unbroken _ _ ih | returned unbroken _ ih => exact List.forall_mem_cons.mpr ⟨unbroken, ih⟩
  | unended unbroken => exact List.forall_mem_singleton.mpr unbroken

/-- What stands before a line feed is ended lines. -/
theorem lines_append_cons (before rest : List Char) :
    lines (before ++ '\n' :: rest)
      = (before.splitOn '\n').map dropReturn ++ lines rest := by
  have some := List.splitOn_ne_nil '\n' rest
  rw [lines, lines, List.splitOn_append_cons_self, List.dropLast_append_of_ne_nil some,
    List.getLast?_append_of_ne_nil _ some, List.map_append, List.append_assoc]

/-- What holds no line feed is a line as it is, unless it is empty. -/
theorem lines_of_unbroken {line : List Char} (unbroken : '\n' ∉ line) :
    lines line = if line = [] then [] else [line] := by
  rw [lines, List.splitOn_eq_singleton unbroken]
  cases line <;> simp

/-- The first line feed ends the first line. -/
theorem lines_feed {line : List Char} (unbroken : '\n' ∉ line) (rest : List Char) :
    lines (line ++ '\n' :: rest) = dropReturn line :: lines rest := by
  rw [lines_append_cons, List.splitOn_eq_singleton unbroken, List.map_singleton,
    List.singleton_append]

theorem dropReturn_of_plain {line : List Char} (plain : line.getLast? ≠ some '\r') :
    dropReturn line = line := if_neg plain

/-- A line that has neither character of a line end in it is a line as it is. -/
theorem lines_of_plain {line : List Char} (plain : ∀ c ∈ line, c ≠ '\n' ∧ c ≠ '\r')
    (rest : List Char) : lines (line ++ '\n' :: rest) = line :: lines rest := by
  have unbroken : '\n' ∉ line := fun part => (plain _ part).1 rfl
  have ends : line.getLast? ≠ some '\r' := fun last =>
    (plain _ (List.mem_of_getLast? last)).2 rfl
  rw [lines_feed unbroken, dropReturn_of_plain ends]

theorem dropReturn_concat (line : List Char) : dropReturn (line ++ ['\r']) = line := by
  rw [dropReturn, if_pos List.getLast?_concat, List.dropLast_concat]

theorem Lined.lines_eq (h : Lined text ls) : lines text = ls := by
  induction h with
  | nil => rfl
  | feed unbroken plain _ ih => rw [lines_feed unbroken, dropReturn_of_plain plain, ih]
  | @returned line rest behind unbroken _ ih =>
    have clear : '\n' ∉ line ++ ['\r'] := List.not_mem_append unbroken (by decide)
    rw [List.append_cons, lines_feed clear, dropReturn_concat, ih]
  | unended unbroken some => rw [lines_of_unbroken unbroken, if_neg some]

/-- Every text is broken into lines: cut at its first line feed, what is behind that is shorter. -/
theorem exists_lined (text : List Char) : ∃ ls, Lined text ls := by
  induction size : text.length using Nat.strong_induction_on generalizing text with
  | _ size ih =>
    by_cases broken : '\n' ∈ text
    · obtain ⟨line, rest, rfl, unbroken⟩ := List.eq_append_cons_of_mem broken
      obtain ⟨behind, follow⟩ := ih rest.length (by simp [← size]; omega) rest rfl
      by_cases ends : line.getLast? = some '\r'
      · obtain ⟨line, rfl⟩ := List.getLast?_eq_some_iff.mp ends
        rw [← List.append_cons]
        exact ⟨_, .returned (fun part => unbroken (List.mem_append_left _ part)) follow⟩
      · exact ⟨_, .feed unbroken ends follow⟩
    · by_cases empty : text = []
      · exact ⟨[], empty ▸ .nil⟩
      · exact ⟨[text], .unended broken empty⟩

/-- **A text is broken into lines in one way only**, and the program finds it. -/
theorem lined_iff : Lined text ls ↔ lines text = ls := by
  refine ⟨Lined.lines_eq, ?_⟩
  rintro rfl
  obtain ⟨ls, broken⟩ := exists_lined text
  rwa [broken.lines_eq]

/-! ## A marker in a line -/

section

variable {m : List Char} (nonempty : m ≠ []) (open_ended : m.getLast? ≠ some '\r')
include nonempty open_ended

/-- A marker that does not end in a carriage return does not need the one at the end of a line. -/
theorem infix_dropReturn_iff (line : List Char) : m <:+: dropReturn line ↔ m <:+: line := by
  rw [dropReturn]
  split
  · next ends =>
    obtain ⟨rest, rfl⟩ := List.getLast?_eq_some_iff.mp ends
    rw [List.dropLast_concat, List.infix_concat_iff]
    refine ⟨.inr, fun h => h.resolve_left fun suffix => ?_⟩
    rcases List.suffix_concat_iff.mp suffix with rfl | ⟨l, rfl, -⟩
    · exact nonempty rfl
    · exact open_ended List.getLast?_concat
  · rfl

/-- **A marker without line feeds is in a text exactly if it is in one of its lines**, however the
lines end, and whether the last one does. -/
theorem exists_line_iff (clear : '\n' ∉ m) (text : List Char) :
    (∃ line ∈ lines text, m <:+: line) ↔ m <:+: text := by
  obtain ⟨ls, broken⟩ := exists_lined text
  rw [broken.lines_eq]
  induction broken with
  | nil => simp [nonempty]
  | feed unbroken plain _ ih =>
    rw [infix_append_cons_iff nonempty clear, List.exists_mem_cons_iff, ih]
  | @returned line rest behind unbroken _ ih =>
    have kept := infix_dropReturn_iff nonempty open_ended (line ++ ['\r'])
    rw [dropReturn_concat] at kept
    rw [List.append_cons, infix_append_cons_iff nonempty clear, List.exists_mem_cons_iff, ih, kept]
  | unended => simp

end

/-! ## The lines that hold a marker -/

/-- **The lines that hold a marker**, in order, are those of all lines that do. -/
theorem toList_linesWith (text marker : String) : (linesWith text marker).map String.toList
    = (lines text.toList).filter fun line => marker.toList <:+: line := by
  have same (line : List Char) : occurs marker.toList line
      = decide (marker.toList <:+: line) := by
    rw [Bool.eq_iff_iff, occurs_iff, decide_eq_true_iff]
  rw [linesWith, List.map_map, List.filter_congr fun line _ => same line]
  simp

theorem linesWith_ne_nil_iff (text marker : String) :
    linesWith text marker ≠ [] ↔ ∃ line ∈ lines text.toList, marker.toList <:+: line := by
  rw [ne_eq, ← List.map_eq_nil_iff (f := String.toList), toList_linesWith, List.filter_eq_nil_iff]
  simp

/-- A marker is in a text if the text is something before it, the marker, and something behind. -/
theorem contains_iff (text marker : String) :
    contains text marker = true ↔ ∃ before behind, before ++ marker ++ behind = text := by
  rw [contains, occurs_iff]
  constructor
  · rintro ⟨before, behind, whole⟩
    refine ⟨.ofList before, .ofList behind, ?_⟩
    rw [← String.toList_inj, ← whole]
    simp
  · rintro ⟨before, behind, rfl⟩
    exact ⟨before.toList, behind.toList, by simp⟩

/-- What ends in a carriage return is in no line any more once its line feed comes. -/
theorem not_infix_of_return {line found : List Char} (unbroken : '\n' ∉ line)
    (part : found ∈ lines (line ++ '\r' :: '\n' :: [])) : ¬ line ++ ['\r'] <:+: found := by
  rw [lined_iff.mp (.returned unbroken .nil), List.mem_singleton] at part
  intro held
  have longer := held.length_le
  rw [part, List.length_append, List.length_singleton] at longer
  omega

/-- **The markers that are in a text exactly if they are in one of its lines**, whatever the text:
those that are not empty, hold no line feed, and do not end in a carriage return. -/
theorem forall_linesWith_iff (marker : String) :
    (∀ text, linesWith text marker ≠ [] ↔ contains text marker = true)
      ↔ marker ≠ "" ∧ '\n' ∉ marker.toList ∧ marker.toList.getLast? ≠ some '\r' := by
  constructor
  · intro agree
    have shown (text : String) (part : marker.toList <:+: text.toList) :
        ∃ line ∈ lines text.toList, marker.toList <:+: line :=
      (linesWith_ne_nil_iff text marker).mp ((agree text).mpr ((occurs_iff _ _).mpr part))
    have clear : '\n' ∉ marker.toList := by
      intro broken
      obtain ⟨line, part, held⟩ := shown marker List.infix_rfl
      exact (lined_iff.mpr rfl).unbroken line part (held.subset broken)
    refine ⟨?_, clear, fun ends => ?_⟩
    · rintro rfl
      obtain ⟨line, part, -⟩ := shown "" List.infix_rfl
      nomatch part
    · obtain ⟨line, cut⟩ := List.getLast?_eq_some_iff.mp ends
      obtain ⟨found, part, held⟩ := shown (marker ++ "\n") ⟨[], ['\n'], by simp⟩
      have text : (marker ++ "\n").toList = line ++ '\r' :: '\n' :: [] := by simp [cut]
      rw [cut] at held clear
      rw [text] at part
      exact not_infix_of_return (fun part => clear (List.mem_append_left _ part)) part held
  · rintro ⟨nonempty, clear, open_ended⟩ text
    rw [linesWith_ne_nil_iff, contains, occurs_iff]
    exact exists_line_iff (by simpa using nonempty) open_ended clear text.toList

end Text

end NestedSession
