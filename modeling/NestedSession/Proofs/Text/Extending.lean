import NestedSession.Proofs.Text.Lines

/-!
# Proofs/Text/Extending — the lines of a text that goes on

A text that goes on keeps its ended lines, and only what follows its last line feed may change
(`Text.exists_lines_append`): it grows, and when its own line feed comes it loses the carriage
return before that.  So the lines that hold a marker are the same in a text that goes on, but for the
last of them (`Text.Extends`); and that one is still there, for a marker without line ends does not
lie in what is lost (`Text.linesWith_append`).
-/

namespace NestedSession.Text

/-! ## Lists of lines that go on -/

/-- **A list of lines that goes on**: it does not get shorter, all lines but its last stay as they
are, and that one, less a carriage return at its end, begins the line in its place. -/
structure Extends (before after : List String) : Prop where
  length_le : before.length ≤ after.length
  same : ∀ i, i + 1 < before.length → after[i]? = before[i]?
  last : ∀ line ∈ before.getLast?, ∃ line', after[before.length - 1]? = some line'
    ∧ dropReturn line.toList <+: line'.toList

theorem dropReturn_isPrefix (line : List Char) : dropReturn line <+: line := by
  rw [dropReturn]
  split
  · exact line.dropLast_prefix
  · exact List.prefix_rfl

/-- Lines behind those that were there before. -/
theorem Extends.of_isPrefix {before after : List String} (h : before <+: after) :
    Extends before after := by
  have kept {i : ℕ} (inside : i < before.length) : after[i]? = before[i]? :=
    List.prefix_iff_getElem?.mp h i inside ▸ (List.getElem?_eq_getElem inside).symm
  refine ⟨h.length_le, fun i inside => kept (Nat.lt_of_succ_lt inside), fun line ends => ?_⟩
  have some : before ≠ [] := by
    rintro rfl
    nomatch ends
  refine ⟨line, ?_, dropReturn_isPrefix line.toList⟩
  rw [kept (Nat.sub_one_lt (mt List.length_eq_zero_iff.mp some)), ← List.getLast?_eq_getElem?]
  exact ends

/-- A last line that goes on, and lines behind it. -/
theorem Extends.of_grown (front more : List String) {line line' : String}
    (grown : dropReturn line.toList <+: line'.toList) :
    Extends (front ++ [line]) (front ++ line' :: more) := by
  refine ⟨by simp, fun i inside => ?_, fun last ends => ?_⟩
  · have inside : i < front.length := by simpa using inside
    rw [List.getElem?_append_left inside, List.getElem?_append_left inside]
  · obtain rfl : line = last := by simpa using ends
    exact ⟨line', by simp, grown⟩

/-! ## Lines of a text that goes on -/

/-- **A text is ended lines and what follows them**, and goes on behind that. -/
theorem exists_lines_append (text : List Char) : ∃ ended rest, '\n' ∉ rest
    ∧ lines text = ended ++ lines rest
    ∧ ∀ more, lines (text ++ more) = ended ++ lines (rest ++ more) := by
  by_cases broken : '\n' ∈ text
  · -- the last line feed is the first one from behind
    obtain ⟨tser, erofeb, cut, clear⟩ :=
      List.eq_append_cons_of_mem (List.mem_reverse.mpr broken)
    have cut : text = erofeb.reverse ++ '\n' :: tser.reverse := by
      rw [← List.reverse_inj, cut]
      simp
    refine ⟨(erofeb.reverse.splitOn '\n').map dropReturn, tser.reverse,
      mt List.mem_reverse.mp clear, ?_, fun more => ?_⟩
    · rw [cut, lines_append_cons]
    · rw [cut, List.append_assoc, List.cons_append, lines_append_cons]
  · exact ⟨[], text, broken, rfl, fun _ => rfl⟩

/-- However a line goes on, it keeps all but a carriage return at its end. -/
theorem dropReturn_isPrefix_append (line more : List Char) :
    dropReturn line <+: dropReturn (line ++ more) := by
  rcases more.eq_nil_or_concat' with rfl | ⟨more, c, rfl⟩
  · rw [List.append_nil]
  · have kept : line <+: dropReturn (line ++ (more ++ [c])) := by
      rw [dropReturn, ← List.append_assoc, List.dropLast_concat]
      split
      · exact List.prefix_append line more
      · exact ⟨more ++ [c], (List.append_assoc _ _ _).symm⟩
    exact (dropReturn_isPrefix line).trans kept

/-! ## Lines with a marker -/

section

variable {m rest : List Char} (nonempty : m ≠ []) (unbroken : '\n' ∉ rest)
include nonempty unbroken

/-- An open line is shown if it holds the marker. -/
theorem filter_lines_of_unbroken :
    (lines rest).filter (occurs m) = if occurs m rest then [rest] else [] := by
  rw [lines_of_unbroken unbroken]
  by_cases empty : rest = []
  · have absent : occurs m rest = false := by
      rw [empty, occurs]
      exact List.isEmpty_eq_false_iff.mpr nonempty
    rw [if_pos empty, absent, List.filter_nil, if_neg Bool.false_ne_true]
  · rw [if_neg empty, List.filter_cons, List.filter_nil]

/-- **An open line that holds a marker** still does when it goes on, and begins as it did, for a
marker that does not end in a carriage return. -/
theorem exists_filter_lines_append (open_ended : m.getLast? ≠ some '\r')
    (held : occurs m rest = true) (more : List Char) : ∃ line others,
      (lines (rest ++ more)).filter (occurs m) = line :: others ∧ dropReturn rest <+: line := by
  rw [occurs_iff] at held
  by_cases broken : '\n' ∈ more
  · obtain ⟨added, others, rfl, clear⟩ := List.eq_append_cons_of_mem broken
    have still : occurs m (dropReturn (rest ++ added)) = true := by
      rw [occurs_iff, infix_dropReturn_iff nonempty open_ended]
      exact List.infix_append_of_infix_left held
    refine ⟨dropReturn (rest ++ added), (lines others).filter (occurs m), ?_,
      dropReturn_isPrefix_append rest added⟩
    rw [← List.append_assoc, lines_feed (List.not_mem_append unbroken clear)]
    exact List.filter_cons_of_pos still
  · have still : occurs m (rest ++ more) = true :=
      (occurs_iff _ _).mpr (List.infix_append_of_infix_left held)
    refine ⟨rest ++ more, [], ?_, (dropReturn_isPrefix rest).trans (List.prefix_append rest more)⟩
    rw [filter_lines_of_unbroken nonempty (List.not_mem_append unbroken broken), still, if_pos rfl]

end

/-- **The lines that hold a marker go on as the text does**, whatever the text and whatever follows.
(A marker with a line feed is in no line.) -/
theorem linesWith_append (text more : String) {marker : String} (nonempty : marker ≠ "")
    (open_ended : marker.toList.getLast? ≠ some '\r') :
    Extends (linesWith text marker) (linesWith (text ++ more) marker) := by
  have nonempty : marker.toList ≠ [] := by simpa using nonempty
  obtain ⟨ended, rest, unbroken, now, later⟩ := exists_lines_append text.toList
  simp only [linesWith, String.toList_append, now, later, List.filter_append, List.map_append,
    filter_lines_of_unbroken nonempty unbroken]
  split
  · next held =>
    obtain ⟨line, others, shown, grown⟩ :=
      exists_filter_lines_append nonempty unbroken open_ended held more.toList
    rw [shown]
    refine .of_grown _ _ ?_
    rwa [String.toList_ofList, String.toList_ofList]
  · rw [List.map_nil, List.append_nil]
    exact .of_isPrefix (List.prefix_append _ _)

end NestedSession.Text
