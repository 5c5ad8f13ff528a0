import NestedSession.CommandLine.SettingsReport
import NestedSession.CommandLine.Summary
import NestedSession.Proofs.Json.Values
import NestedSession.Proofs.Text.Lines

/-!
# Proofs/CommandLine/Shown — what a report says to its reader

A report is shown as lines for a person or as JSON for a program.  The first lines of a summary are
always the same four, since nothing in them ends a line (`RunSummary.lines_text`); and a program
reads the JSON as the members of the report (`RunSummary.parse?_render`).  What validating shows
says one of two things, and says it exactly where it holds (`ValidityReport.tells_iff`).
-/

namespace NestedSession

/-! ## Words of one line -/

namespace Text

/-- **A text that stays on its line**: neither character of a line end is in it. -/
def OnLine (s : String) : Prop := ∀ c ∈ s.toList, c ≠ '\n' ∧ c ≠ '\r'

instance (s : String) : Decidable (OnLine s) := List.decidableBAll _ s.toList

theorem OnLine.append {s t : String} (first : OnLine s) (second : OnLine t) : OnLine (s ++ t) := by
  rw [OnLine, String.toList_append]
  exact List.forall_mem_append.mpr ⟨first, second⟩

/-- The line that ends first, and what is behind it. -/
theorem OnLine.lines_eq {s : String} (h : OnLine s) (rest : List Char) :
    lines (s.toList ++ '\n' :: rest) = s.toList :: lines rest := lines_of_plain h rest

/-- **Texts on lines of their own** are the first lines of what they stand in front of. -/
theorem lines_join {ls : List String} (h : ∀ line ∈ ls, OnLine line) (rest : String) :
    lines (String.join (ls.map (· ++ "\n")) ++ rest).toList
      = ls.map String.toList ++ lines rest.toList := by
  induction ls with
  | nil => simp
  | cons line ls ih =>
    obtain ⟨first, h⟩ := List.forall_mem_cons.mp h
    have cut : (String.join ((line :: ls).map (· ++ "\n")) ++ rest).toList
        = line.toList ++ '\n' :: (String.join (ls.map (· ++ "\n")) ++ rest).toList := by
      simp
    rw [cut, first.lines_eq, ih h, List.map_cons, List.cons_append]

theorem ne_of_isDigit {c : Char} (digit : c.isDigit = true) : c ≠ '\n' ∧ c ≠ '\r' := by
  constructor <;> rintro rfl <;> exact absurd digit (by decide)

theorem onLine_nat (n : Nat) : OnLine (toString n) := fun c there =>
  ne_of_isDigit (Nat.isDigit_of_mem_toDigits (by decide) (by decide) (Nat.toList_repr ▸ there))

theorem onLine_int (n : Int) : OnLine (toString n) := by
  intro c there
  obtain ⟨m, ⟨digits, -⟩ | ⟨-, digits, -⟩⟩ := toList_toString_int n
  · rw [digits] at there
    exact ne_of_isDigit (Nat.isDigit_of_mem_toDigits (by decide) (by decide) there)
  · rw [digits] at there
    rcases List.mem_cons.mp there with rfl | there
    · decide
    · exact ne_of_isDigit (Nat.isDigit_of_mem_toDigits (by decide) (by decide) there)

end Text

open Text (OnLine)

theorem Exit.onLine_label (exit : Exit) : OnLine exit.label := by
  cases exit with
  | exited code => exact Text.onLine_int _
  | signaled signal =>
    have word : OnLine "signal " := by decide
    exact word.append (Text.onLine_int _)

theorem SessionReport.onLine_exitLabel (r : SessionReport) : OnLine r.exitLabel := by
  rw [exitLabel]
  cases r.exit with
  | none => exact (by decide : OnLine "none")
  | some exit => exact exit.onLine_label

/-! ## What a run shows -/

namespace RunSummary

/-- The verdict of a run as a word. -/
def verdict (passed colours : Bool) : String :=
  if passed then Ink.good.paint colours "PASSED" else Ink.bad.paint colours "FAILED"

/-- The end of a session in words. -/
def ending (r : SessionReport) : String :=
  (if r.clean then "clean" else "unclean") ++ if r.forced then " (killed)" else ""

/-- The lines that every summary begins with. -/
def headLines (s : RunSummary) (colours : Bool) : List String :=
  ["Session: " ++ verdict s.passed colours, "  Exit status: " ++ s.report.exitLabel,
    "  Teardown: " ++ ending s.report, "  Expectations met: " ++ toString s.met]

theorem onLine_verdict (passed colours : Bool) : OnLine (verdict passed colours) := by
  cases passed <;> cases colours <;> decide +kernel

theorem onLine_ending (r : SessionReport) : OnLine (ending r) := by
  rw [ending]
  cases r.clean <;> cases r.forced <;> decide

theorem onLine_headLines (s : RunSummary) (colours : Bool) :
    ∀ line ∈ s.headLines colours, OnLine line := by
  have session : OnLine "Session: " := by decide
  have status : OnLine "  Exit status: " := by decide
  have teardown : OnLine "  Teardown: " := by decide
  have count : OnLine "  Expectations met: " := by decide
  simp only [headLines, List.forall_mem_cons]
  exact ⟨session.append (onLine_verdict _ _), status.append s.report.onLine_exitLabel,
    teardown.append (onLine_ending _), count.append (Text.onLine_nat s.met),
    fun _ there => nomatch there⟩

/-- A summary for a reader begins with those lines. -/
theorem exists_text_eq (s : RunSummary) (colours : Bool) : ∃ rest,
    s.text colours = String.join ((s.headLines colours).map (· ++ "\n")) ++ rest := by
  have cut : "\n  Exit status: " = "\n" ++ "  Exit status: " := rfl
  unfold text
  simp only [headLines, verdict, ending, List.map, String.join, List.foldl, toString, cut,
    String.append_assoc, String.empty_append]
  exact ⟨_, rfl⟩

/-- **The first lines of a summary**: the verdict, how the session ended, and how many expectations
were met. -/
theorem lines_text (s : RunSummary) (colours : Bool) : ∃ rest,
    Text.lines (s.text colours).toList = (s.headLines colours).map String.toList ++ rest := by
  obtain ⟨rest, eq⟩ := s.exists_text_eq colours
  exact ⟨_, eq ▸ Text.lines_join (s.onLine_headLines colours) rest⟩

/-- **A summary as a program reads it**: each of its entries by name, null for what there is none
of. -/
structure Entries (s : RunSummary) (value : Json) : Prop where
  passed : value.member "passed" = .bool s.passed
  exit : value.member "exit" = .str s.report.exitLabel
  clean : value.member "clean" = .bool s.report.clean
  forced : value.member "forced" = .bool s.report.forced
  met : value.member "expectations_met" = .int s.met
  critical : value.member "critical_lines" = .arr ((s.report.graded .critical).map .str)
  warning : value.member "warning_lines" = .arr ((s.report.graded .warning).map .str)
  savedLogs : value.member "saved_logs" = (s.report.savedLogs.map SavedLogs.toJson).getD .null
  error : value.member "error" = (s.fault.map Json.str).getD .null

theorem entries_toJson (s : RunSummary) : s.Entries s.toJson where
  passed := rfl
  exit := rfl
  clean := rfl
  forced := rfl
  met := rfl
  critical := rfl
  warning := rfl
  savedLogs := by
    rw [toJson]
    cases s.report.savedLogs <;> cases s.fault <;> rfl
  error := by
    rw [toJson]
    cases s.report.savedLogs <;> cases s.fault <;> rfl

theorem isExact_toJson {s : RunSummary} (small : s.met < 2 ^ 64) : s.toJson.IsExact := by
  have count : (Json.int s.met).IsExact := .int (by omega) (by omega)
  have places (logs : SavedLogs) : logs.toJson.IsExact :=
    .obj (List.forall_mem_cons.mpr ⟨.str _, List.forall_mem_singleton.mpr (.str _)⟩)
  refine .obj (List.forall_mem_append.mpr ⟨List.forall_mem_append.mpr ⟨?_, ?_⟩, ?_⟩)
  · simp only [List.forall_mem_cons]
    exact ⟨.bool _, .str _, .bool _, .bool _, count, .strs _, .strs _, fun _ there => nomatch there⟩
  · cases s.report.savedLogs with
    | none => exact fun _ there => nomatch there
    | some logs => exact List.forall_mem_singleton.mpr (places logs)
  · cases s.fault with
    | none => exact fun _ there => nomatch there
    | some why => exact List.forall_mem_singleton.mpr (.str why)

/-- **What is shown as JSON is read as the summary.** -/
theorem parse?_render {s : RunSummary} (small : s.met < 2 ^ 64) (colours : Bool) :
    Json.parse? (s.render .json colours) = some s.toJson :=
  Json.parse?_pretty (isExact_toJson small) (by simp)

/-- **What a reader finds in a summary that is shown**: the lines it begins with, or its entries.
The JSON is read as these if 64 bits hold the count. -/
def ShownAs (s : RunSummary) (colours : Bool) (shown : String) : OutputFormat → Prop
  | .text => ∃ rest, Text.lines shown.toList = (s.headLines colours).map String.toList ++ rest
  | .json => ∃ value, shown = value.pretty ++ "\n" ∧ s.Entries value
    ∧ (s.met < 2 ^ 64 → Json.parse? shown = some value)

/-- **A summary is shown as what it is**, in either format. -/
theorem shownAs_render (s : RunSummary) (format : OutputFormat) (colours : Bool) :
    s.ShownAs colours (s.render format colours) format := by
  cases format with
  | text => exact s.lines_text colours
  | json => exact ⟨s.toJson, rfl, s.entries_toJson, fun small => parse?_render small colours⟩

end RunSummary

/-! ## What validating shows -/

namespace ValidityReport

/-- The verdict on settings as a word. -/
def word (valid colours : Bool) : String :=
  if valid then Ink.good.paint colours "VALID" else Ink.bad.paint colours "INVALID"

/-- **That validating tells a verdict** on a file: as the word behind its name, or as an entry of
what the JSON is read as. -/
def Tells (source : String) (valid colours : Bool) (shown : String) : OutputFormat → Prop
  | .text => ∃ rest, shown = "Config Validation: " ++ Ink.strong.paint colours source
      ++ "\n  Result: " ++ word valid colours ++ "\n" ++ rest
  | .json => ∃ value, Json.parse? shown = some value ∧ value.member "source" = .str source
    ∧ value.member "valid" = .bool valid

theorem isExact_toJson (r : ValidityReport) : r.toJson.IsExact := by
  refine .obj ?_
  simp only [List.forall_mem_cons]
  exact ⟨.str _, .bool _, .strs _, fun _ there => nomatch there⟩

theorem parse?_render (r : ValidityReport) (colours : Bool) :
    Json.parse? (r.render .json colours) = some r.toJson :=
  Json.parse?_pretty r.isExact_toJson (by simp)

theorem tells_render (r : ValidityReport) (format : OutputFormat) (colours : Bool) :
    Tells r.source r.fault.isNone colours (r.render format colours) format := by
  cases format with
  | json => exact ⟨r.toJson, r.parse?_render colours, rfl, rfl⟩
  | text =>
    have cut : "\n  Result: " = "\n" ++ "  Result: " := rfl
    obtain ⟨source, _ | why⟩ := r
    · refine ⟨"", ?_⟩
      unfold render text
      simp only [cut, word, Option.isNone_none, if_true, String.append_assoc, String.append_empty]
    · refine ⟨"  Error: " ++ Ink.wrong.paint colours why ++ "\n", ?_⟩
      unfold render text
      simp only [cut, word, Option.isNone_some, Bool.false_eq_true, if_false, String.append_assoc]

/-- The two verdicts differ before either of them ends. -/
theorem word_append_ne (colours : Bool) (rest rest' : List Char) :
    (word true colours).toList ++ rest ≠ (word false colours).toList ++ rest' := by
  intro eq
  have heads := congrArg (List.take (if colours then 6 else 1)) eq
  rw [List.take_append_of_le_length (by cases colours <;> decide +kernel),
    List.take_append_of_le_length (by cases colours <;> decide +kernel)] at heads
  revert heads
  cases colours <;> decide +kernel

/-- What is shown tells one verdict only. -/
theorem Tells.unique {source shown : String} {valid valid' colours : Bool} {format : OutputFormat}
    (h : Tells source valid colours shown format) (h' : Tells source valid' colours shown format) :
    valid = valid' := by
  cases format with
  | json =>
    obtain ⟨value, read, -, told⟩ := h
    obtain ⟨value', read', -, told'⟩ := h'
    obtain rfl : value = value' := Option.some.inj (read.symm.trans read')
    exact Json.bool.inj (told.symm.trans told')
  | text =>
    obtain ⟨rest, rfl⟩ := h
    obtain ⟨rest', eq⟩ := h'
    have behind : (word valid colours).toList ++ ("\n" ++ rest).toList
        = (word valid' colours).toList ++ ("\n" ++ rest').toList := by
      simpa [String.append_assoc, ← String.toList_inj] using eq
    cases valid with
    | false => cases valid' with
      | false => rfl
      | true => exact absurd behind.symm (word_append_ne colours _ _)
    | true => cases valid' with
      | false => exact absurd behind (word_append_ne colours _ _)
      | true => rfl

/-- **Validating tells that settings make sense exactly if it has no fault to tell.** -/
theorem tells_iff (r : ValidityReport) (valid colours : Bool) (format : OutputFormat) :
    Tells r.source valid colours (r.render format colours) format ↔ valid = r.fault.isNone := by
  refine ⟨fun told => told.unique (r.tells_render format colours), ?_⟩
  rintro rfl
  exact r.tells_render format colours

end ValidityReport

end NestedSession
