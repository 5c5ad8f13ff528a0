import NestedSession.Toml.Printer

/-!
# Proofs/Toml/Strings — a string is read as what was written

A string is written in one of four forms, and each form has a reader of its own.  Two facts carry
all four: an escape is read as the character it was written for (`IsEscape`), and quotes stand for
themselves exactly where there are too few of them to close the string.  Up to two quotes at the
end of a text merge with the three that close it, and are told apart by `closing`.
-/

namespace NestedSession.Toml

/-! ## Runs of quotes -/

/-- One step along a text, with the run that ends here and the longest one so far. -/
def runStep (quote : Char) (runs : Nat × Nat) (c : Char) : Nat × Nat :=
  if c = quote then (runs.1 + 1, max runs.2 (runs.1 + 1)) else (0, runs.2)

theorem longestRun_eq (quote : Char) (s : List Char) :
    longestRun quote s = (s.foldl (runStep quote) (0, 0)).2 := rfl

/-- The longest run so far does not get shorter. -/
theorem le_foldl_runStep (quote : Char) (s : List Char) (runs : Nat × Nat) :
    runs.2 ≤ (s.foldl (runStep quote) runs).2 := by
  induction s generalizing runs with
  | nil => exact Nat.le_refl _
  | cons c s ih =>
    refine Nat.le_trans ?_ (ih (runStep quote runs c))
    rw [runStep]
    split
    · exact Nat.le_max_left _ _
    · exact Nat.le_refl _

theorem foldl_runStep_replicate (quote : Char) (n : Nat) (runs : Nat × Nat) :
    ((List.replicate n quote).foldl (runStep quote) runs).1 = runs.1 + n
      ∧ (0 < n → runs.1 + n ≤ ((List.replicate n quote).foldl (runStep quote) runs).2) := by
  induction n generalizing runs with
  | zero => exact ⟨rfl, fun h => absurd h (Nat.lt_irrefl 0)⟩
  | succ n ih =>
    have step : runStep quote runs quote = (runs.1 + 1, max runs.2 (runs.1 + 1)) := if_pos rfl
    rw [List.replicate_succ, List.foldl_cons, step]
    obtain ⟨run, best⟩ := ih (runs.1 + 1, max runs.2 (runs.1 + 1))
    refine ⟨run.trans (by omega), fun _ => ?_⟩
    rcases n with _ | n
    · exact Nat.le_max_right _ _
    · exact Nat.le_trans (by omega) (best (Nat.succ_pos n))

/-- **A run of quotes is no longer than the longest.** -/
theorem le_longestRun {quote : Char} {n : Nat} {s : List Char}
    (h : List.replicate n quote <:+: s) : n ≤ longestRun quote s := by
  obtain ⟨before, after, rfl⟩ := h
  rcases n with _ | n
  · exact Nat.zero_le _
  rw [longestRun_eq, List.foldl_append, List.foldl_append]
  refine Nat.le_trans ?_ (le_foldl_runStep _ _ _)
  refine Nat.le_trans ?_ ((foldl_runStep_replicate quote (n + 1) _).2 (Nat.succ_pos n))
  exact Nat.le_add_left _ _

/-! ## Escapes -/

/-- **An escape of a character**, behind its backslash: it is read as the character, and does not
look like the end of a line. -/
structure IsEscape (esc : List Char) (c : Char) : Prop where
  reads : ∀ rest, escaped? (esc ++ rest) = some (c, rest)
  stands : ∀ rest, endsLine (esc ++ rest) = false

/-- Four digits are enough for every control. -/
theorem charOfHex?_code : ∀ n : Fin 128,
    (code n).length = 4 ∧ charOfHex? (code n) = some (Char.ofNat n) := by
  decide

theorem isEscape_code {c : Char} (control : isPlain c = false) :
    IsEscape ('u' :: code c.toNat) c := by
  have small : c.toNat < 128 := by
    simp only [isPlain, Bool.or_eq_false_iff, Bool.and_eq_false_iff, decide_eq_false_iff_not,
      Nat.not_le, ne_eq, Decidable.not_not] at control
    omega
  obtain ⟨four, number⟩ := charOfHex?_code ⟨c.toNat, small⟩
  have back : Char.ofNat c.toNat = c := Char.ofNat_toNat c
  match digits : code c.toNat, four with
  | [x, y, z, w], _ =>
    rw [digits, back] at number
    exact ⟨fun rest => by simp [escaped?, number], fun rest => rfl⟩

/-- **How a character is written that is no quote**, nor a line end that stays one: as itself, or
as an escape. -/
theorem escapeAll_cons {c : Char} (unquoted : c ≠ '"') (limit : Nat) (lines : Bool)
    (broken : c = '\n' → lines = false) (run : Nat) (s : List Char) :
    (isPlain c = true ∧ c ≠ '\\' ∧
      escapeAll limit lines run (c :: s) = c :: escapeAll limit lines 0 s)
    ∨ ∃ esc, IsEscape esc c ∧
      escapeAll limit lines run (c :: s) = '\\' :: (esc ++ escapeAll limit lines 0 s) := by
  rw [escapeAll, if_neg unquoted]
  split
  · next same => exact .inr ⟨['\\'], by subst same; exact ⟨fun _ => rfl, fun _ => rfl⟩, rfl⟩
  next slash =>
  split
  · next same =>
    rw [broken same]
    exact .inr ⟨['n'], same ▸ ⟨fun _ => rfl, fun _ => rfl⟩, rfl⟩
  split
  · next same => exact .inr ⟨['t'], same ▸ ⟨fun _ => rfl, fun _ => rfl⟩, rfl⟩
  split
  · next same => exact .inr ⟨['b'], same ▸ ⟨fun _ => rfl, fun _ => rfl⟩, rfl⟩
  split
  · next same => exact .inr ⟨['f'], same ▸ ⟨fun _ => rfl, fun _ => rfl⟩, rfl⟩
  split
  · next same => exact .inr ⟨['r'], same ▸ ⟨fun _ => rfl, fun _ => rfl⟩, rfl⟩
  split
  · next plain => exact .inl ⟨plain, slash, rfl⟩
  · next control =>
    exact .inr ⟨'u' :: code c.toNat, isEscape_code (Bool.eq_false_iff.mpr control), rfl⟩

/-- How a quote is written that has enough before it. -/
theorem escapeAll_quote {limit run : Nat} (enough : limit ≤ run) (lines : Bool) (s : List Char) :
    escapeAll limit lines run ('"' :: s) = '\\' :: (['"'] ++ escapeAll limit lines 0 s) := by
  rw [escapeAll, if_pos rfl, if_neg (Nat.not_lt.mpr enough)]
  rfl

theorem isEscape_quote : IsEscape ['"'] '"' := ⟨fun _ => rfl, fun _ => rfl⟩

/-! ## Double quotes on one line -/

theorem basic_escape {esc : List Char} {c : Char} (h : IsEscape esc c) (acc rest : List Char) :
    basic acc ('\\' :: (esc ++ rest)) = basic (c :: acc) rest := by
  rw [basic, if_neg (by decide), if_pos rfl]
  split
  · next found =>
    obtain ⟨rfl, rfl⟩ := by simpa using (h.reads rest).symm.trans found
    rfl
  · next none => simp [h.reads rest] at none

theorem basic_plain {c : Char} (unquoted : c ≠ '"') (slash : c ≠ '\\') (plain : isPlain c = true)
    (acc rest : List Char) : basic acc (c :: rest) = basic (c :: acc) rest := by
  rw [basic, if_neg unquoted, if_neg slash, if_pos plain]

/-- **What stands in double quotes is read as it was.** -/
theorem basic_escapeAll (s : List Char) (run : Nat) (acc rest : List Char) :
    basic acc (escapeAll 0 false run s ++ '"' :: rest)
      = some (String.ofList (acc.reverse ++ s), rest) := by
  induction s generalizing run acc with
  | nil => rw [escapeAll, List.nil_append, basic, if_pos rfl, List.append_nil]
  | cons c s ih =>
    have next : (c :: acc).reverse ++ s = acc.reverse ++ c :: s := by simp
    by_cases quote : c = '"'
    · subst quote
      rw [escapeAll_quote (Nat.zero_le run), List.cons_append, List.append_assoc,
        basic_escape isEscape_quote, ih, next]
    · rcases escapeAll_cons quote 0 false (fun _ => rfl) run s with
        ⟨plain, slash, eq⟩ | ⟨esc, h, eq⟩
      · rw [eq, List.cons_append, basic_plain quote slash plain, ih, next]
      · rw [eq, List.cons_append, List.append_assoc, basic_escape h, ih, next]

/-! ## Single quotes on one line -/

/-- What stands in single quotes is read as it is. -/
theorem literal_append {s : List Char} (plain : ∀ c ∈ s, isPlain c = true) (unquoted : '\'' ∉ s)
    (acc rest : List Char) :
    literal acc (s ++ '\'' :: rest) = some (String.ofList (acc.reverse ++ s), rest) := by
  induction s generalizing acc with
  | nil => rw [List.nil_append, literal, if_pos rfl, List.append_nil]
  | cons c s ih =>
    obtain ⟨first, plain⟩ := List.forall_mem_cons.mp plain
    have ne : c ≠ '\'' := fun same => unquoted (same ▸ List.mem_cons_self)
    rw [List.cons_append, literal, if_neg ne, if_pos first,
      ih plain fun there => unquoted (List.mem_cons_of_mem _ there)]
    simp

/-! ## The end of a string over lines -/

/-- **Up to two quotes before the closing ones** belong to the text. -/
theorem closing_replicate {quote : Char} {n : Nat} (few : n ≤ 2) {rest : List Char}
    (ends : rest.head? ≠ some quote) (acc : List Char) :
    closing quote acc (List.replicate n quote ++ rest)
      = (String.ofList (acc.reverse ++ List.replicate n quote), rest) := by
  match n, few with
  | 0, _ =>
    rcases rest with _ | ⟨a, _ | ⟨b, rest⟩⟩
    · simp [closing]
    · have ne : a ≠ quote := fun same => ends (same ▸ rfl)
      simp [closing, ne]
    · have ne : a ≠ quote := fun same => ends (same ▸ rfl)
      simp [closing, ne]
  | 1, _ =>
    rcases rest with _ | ⟨a, rest⟩
    · simp [closing]
    · have ne : a ≠ quote := fun same => ends (same ▸ rfl)
      simp [closing, ne]
  | 2, _ => simp [closing]

/-- Quotes behind quotes are quotes in front of them. -/
theorem replicate_append_three (quote : Char) (n : Nat) (rest : List Char) :
    List.replicate n quote ++ quote :: quote :: quote :: rest
      = quote :: quote :: quote :: (List.replicate n quote ++ rest) := by
  induction n with
  | zero => rfl
  | succ n ih => rw [List.replicate_succ, List.cons_append, ih]; rfl

theorem threeQuotes_three (quote : Char) (rest : List Char) :
    threeQuotes quote (quote :: quote :: quote :: rest) = true := by
  simp [threeQuotes]

/-- There are no three quotes where one of the next three characters is another. -/
theorem threeQuotes_eq_false {quote c : Char} (other : c ≠ quote) {before : List Char}
    (near : before.length ≤ 2) (rest : List Char) :
    threeQuotes quote (before ++ c :: rest) = false := by
  match before, near with
  | [], _ => simp [threeQuotes, other]
  | [_], _ => simp [threeQuotes, other]
  | [_, _], _ => simp [threeQuotes, other]

/-! ## Three double quotes -/

theorem ne_return_of_isPlain {c : Char} (plain : isPlain c = true) : c ≠ '\r' := by
  rintro rfl
  exact absurd plain (by decide)

theorem basicLines_closing {n : Nat} (few : n ≤ 2) {rest : List Char}
    (ends : rest.head? ≠ some '"') (acc : List Char) :
    basicLines acc (List.replicate n '"' ++ '"' :: '"' :: '"' :: rest)
      = some (String.ofList (acc.reverse ++ List.replicate n '"'), rest) := by
  rw [replicate_append_three, basicLines.eq_def]
  dsimp only
  rw [if_pos (threeQuotes_three _ _), List.drop_succ_cons, List.drop_succ_cons, List.drop_zero,
    closing_replicate few ends]

theorem basicLines_escape {esc : List Char} {c : Char} (h : IsEscape esc c) (acc rest : List Char) :
    basicLines acc ('\\' :: (esc ++ rest)) = basicLines (c :: acc) rest := by
  have no_quotes : threeQuotes '"' ('\\' :: (esc ++ rest)) = false :=
    threeQuotes_eq_false (c := '\\') (by decide) (by decide : [].length ≤ 2) (esc ++ rest)
  rw [basicLines.eq_def]
  dsimp only
  rw [if_neg (Bool.eq_false_iff.mp no_quotes), if_pos rfl,
    if_neg (Bool.eq_false_iff.mp (h.stands rest))]
  split
  · next found =>
    obtain ⟨rfl, rfl⟩ := by simpa using (h.reads rest).symm.trans found
    rfl
  · next none => simp [h.reads rest] at none

/-- A character that may stand for itself does, a quote where there are not three of them. -/
theorem basicLines_plain {c : Char} (slash : c ≠ '\\') (plain : c = '\n' ∨ isPlain c = true)
    {acc rest : List Char} (no_quotes : threeQuotes '"' (c :: rest) = false) :
    basicLines acc (c :: rest) = basicLines (c :: acc) rest := by
  have return_ : c ≠ '\r' := plain.elim (fun line => line ▸ by decide) ne_return_of_isPlain
  rw [basicLines.eq_def]
  dsimp only
  rw [if_neg (Bool.eq_false_iff.mp no_quotes), if_neg slash, if_neg return_,
    if_pos (by simpa using plain)]

/-- What is written of a text that does not begin with a quote, or has enough before it, does not
begin with one either. -/
theorem exists_head_escapeAll {limit run : Nat} {c : Char} (other : c ≠ '"' ∨ limit ≤ run)
    (lines : Bool) (s : List Char) :
    ∃ d t, escapeAll limit lines run (c :: s) = d :: t ∧ d ≠ '"' := by
  by_cases quote : c = '"'
  · subst quote
    have enough := other.resolve_left (fun ne => ne rfl)
    exact ⟨'\\', _, escapeAll_quote enough lines s, by decide⟩
  by_cases kept : c = '\n' ∧ lines = true
  · obtain ⟨rfl, rfl⟩ := kept
    exact ⟨'\n', _, rfl, by decide⟩
  · rcases escapeAll_cons quote limit lines (fun same => by simpa [same] using kept) run s with
      ⟨-, -, eq⟩ | ⟨esc, -, eq⟩
    · exact ⟨c, _, eq, quote⟩
    · exact ⟨'\\', _, eq, by decide⟩

/-- How a quote is written that has few before it. -/
theorem escapeAll_quote_of_lt {limit run : Nat} (few : run < limit) (lines : Bool)
    (s : List Char) :
    escapeAll limit lines run ('"' :: s) = '"' :: escapeAll limit lines (run + 1) s := by
  rw [escapeAll, if_pos rfl, if_pos few]

/-- **A quote that stands for itself** belongs to the end of the text, or there are no three of them
where it stands. -/
theorem escapeAll_quote_cases {run : Nat} (few : run < 2) (s rest : List Char) :
    (∃ n ≤ 2, '"' :: s = List.replicate n '"'
      ∧ escapeAll 2 true run ('"' :: s) = List.replicate n '"')
    ∨ threeQuotes '"' (escapeAll 2 true run ('"' :: s) ++ rest) = false := by
  have raw := escapeAll_quote_of_lt few true s
  rcases s with _ | ⟨d, s⟩
  · exact .inl ⟨1, by decide, rfl, raw⟩
  by_cases second : d = '"' ∧ run = 0
  · obtain ⟨rfl, rfl⟩ := second
    have raw₂ := escapeAll_quote_of_lt (by decide : 0 + 1 < 2) true s
    rw [raw₂] at raw
    rcases s with _ | ⟨e, s⟩
    · exact .inl ⟨2, Nat.le_refl 2, rfl, raw⟩
    · have enough : e ≠ '"' ∨ 2 ≤ 0 + 1 + 1 := .inr (Nat.le_refl 2)
      obtain ⟨h, t, eq, other⟩ := exists_head_escapeAll enough true s
      rw [raw, eq]
      exact .inr (threeQuotes_eq_false other (by decide : ['"', '"'].length ≤ 2) (t ++ rest))
  · have apart : d ≠ '"' ∨ 2 ≤ run + 1 := by
      by_cases same : d = '"'
      · have some : run ≠ 0 := fun zero => second ⟨same, zero⟩
        omega
      · exact .inl same
    obtain ⟨h, t, eq, other⟩ := exists_head_escapeAll apart true s
    rw [raw, eq]
    exact .inr (threeQuotes_eq_false other (by decide : ['"'].length ≤ 2) (t ++ rest))

/-- **What stands in three double quotes is read as it was.** -/
theorem basicLines_escapeAll {rest : List Char} (ends : rest.head? ≠ some '"') (s : List Char)
    {run : Nat} (few : run ≤ 2) (acc : List Char) :
    basicLines acc (escapeAll 2 true run s ++ '"' :: '"' :: '"' :: rest)
      = some (String.ofList (acc.reverse ++ s), rest) := by
  induction s generalizing run acc with
  | nil => exact basicLines_closing (Nat.zero_le 2) ends acc
  | cons c s ih =>
    have next : (c :: acc).reverse ++ s = acc.reverse ++ c :: s := by simp
    by_cases quote : c = '"'
    · subst quote
      by_cases enough : 2 ≤ run
      · rw [escapeAll_quote enough, List.cons_append, List.append_assoc,
          basicLines_escape isEscape_quote, ih (Nat.zero_le 2), next]
      · have raw := escapeAll_quote_of_lt (Nat.not_le.mp enough) true s
        rcases escapeAll_quote_cases (Nat.not_le.mp enough) s ('"' :: '"' :: '"' :: rest) with
          ⟨n, two, text, written⟩ | no_quotes
        · rw [written, text]
          exact basicLines_closing two ends acc
        · rw [raw, List.cons_append] at no_quotes ⊢
          rw [basicLines_plain (by decide) (.inr (by decide)) no_quotes, ih (by omega), next]
    · have no_quotes (t : List Char) : threeQuotes '"' (c :: t) = false :=
        threeQuotes_eq_false quote (by decide : [].length ≤ 2) t
      by_cases line : c = '\n'
      · subst line
        have raw : escapeAll 2 true run ('\n' :: s) = '\n' :: escapeAll 2 true 0 s := rfl
        rw [raw, List.cons_append, basicLines_plain (by decide) (.inl rfl) (no_quotes _),
          ih (Nat.zero_le 2), next]
      · rcases escapeAll_cons quote 2 true (fun same => absurd same line) run s with
          ⟨plain, slash, eq⟩ | ⟨esc, h, eq⟩
        · rw [eq, List.cons_append, basicLines_plain slash (.inr plain) (no_quotes _),
            ih (Nat.zero_le 2), next]
        · rw [eq, List.cons_append, List.append_assoc, basicLines_escape h, ih (Nat.zero_le 2),
            next]

/-! ## Three single quotes -/

theorem literalLines_closing {n : Nat} (few : n ≤ 2) {rest : List Char}
    (ends : rest.head? ≠ some '\'') (acc : List Char) :
    literalLines acc (List.replicate n '\'' ++ '\'' :: '\'' :: '\'' :: rest)
      = some (String.ofList (acc.reverse ++ List.replicate n '\''), rest) := by
  rw [replicate_append_three, literalLines.eq_def]
  dsimp only
  rw [if_pos (threeQuotes_three _ _), List.drop_succ_cons, List.drop_succ_cons, List.drop_zero,
    closing_replicate few ends]

theorem literalLines_plain {c : Char} (plain : c = '\n' ∨ isPlain c = true)
    {acc rest : List Char} (no_quotes : threeQuotes '\'' (c :: rest) = false) :
    literalLines acc (c :: rest) = literalLines (c :: acc) rest := by
  have return_ : c ≠ '\r' := plain.elim (fun line => line ▸ by decide) ne_return_of_isPlain
  rw [literalLines.eq_def]
  dsimp only
  rw [if_neg (Bool.eq_false_iff.mp no_quotes), if_neg return_, if_pos (by simpa using plain)]

/-- **A single quote of a text** without three in a row belongs to its end, or there are no three of
them where it stands. -/
theorem quote_cases {s : List Char} (few : ¬ List.replicate 3 '\'' <:+: '\'' :: s)
    (rest : List Char) :
    (∃ n ≤ 2, '\'' :: s = List.replicate n '\'')
    ∨ threeQuotes '\'' ('\'' :: s ++ rest) = false := by
  rcases s with _ | ⟨d, s⟩
  · exact .inl ⟨1, by decide, rfl⟩
  by_cases second : d = '\''
  · subst second
    rcases s with _ | ⟨e, s⟩
    · exact .inl ⟨2, Nat.le_refl 2, rfl⟩
    · have third : e ≠ '\'' := by
        rintro rfl
        exact few ⟨[], s, rfl⟩
      exact .inr (threeQuotes_eq_false third (by decide : ['\'', '\''].length ≤ 2) (s ++ rest))
  · exact .inr (threeQuotes_eq_false second (by decide : ['\''].length ≤ 2) (s ++ rest))

/-- **What stands in three single quotes is read as it is**, if no three of them are in it. -/
theorem literalLines_append {rest : List Char} (ends : rest.head? ≠ some '\'') {s : List Char}
    (plain : ∀ c ∈ s, c = '\n' ∨ isPlain c = true) (few : ¬ List.replicate 3 '\'' <:+: s)
    (acc : List Char) :
    literalLines acc (s ++ '\'' :: '\'' :: '\'' :: rest)
      = some (String.ofList (acc.reverse ++ s), rest) := by
  induction s generalizing acc with
  | nil => exact literalLines_closing (Nat.zero_le 2) ends acc
  | cons c s ih =>
    obtain ⟨first, plain⟩ := List.forall_mem_cons.mp plain
    have stands (no_quotes : threeQuotes '\'' (c :: s ++ '\'' :: '\'' :: '\'' :: rest) = false) :
        literalLines acc (c :: s ++ '\'' :: '\'' :: '\'' :: rest)
          = some (String.ofList (acc.reverse ++ c :: s), rest) := by
      rw [List.cons_append] at no_quotes ⊢
      rw [literalLines_plain first no_quotes, ih plain fun h => few (h.trans (List.infix_cons
        (List.infix_refl s)))]
      simp
    by_cases quote : c = '\''
    · subst quote
      rcases quote_cases few ('\'' :: '\'' :: '\'' :: rest) with ⟨n, two, text⟩ | no_quotes
      · rw [text]
        exact literalLines_closing two ends acc
      · exact stands no_quotes
    · exact stands (threeQuotes_eq_false quote (by decide : [].length ≤ 2) _)

/-! ## All forms -/

/-- The line end behind opening quotes is the only one that is left out. -/
theorem afterOpening_of_head {s : List Char} (line : s.head? ≠ some '\n')
    (return_ : s.head? ≠ some '\r') : afterOpening s = s := by
  rw [afterOpening.eq_def]
  split
  · exact absurd rfl line
  · exact absurd rfl return_
  · rfl

theorem afterOpening_opening {s body : List Char}
    (unlined : '\n' ∉ s → body.head? ≠ some '\n' ∧ body.head? ≠ some '\r') :
    afterOpening (opening s ++ body) = body := by
  rw [opening]
  split
  · rfl
  · next no_line =>
    have absent : '\n' ∉ s := by simpa using no_line
    exact afterOpening_of_head (unlined absent).1 (unlined absent).2

theorem afterOpening_escapeAll (s rest : List Char) :
    afterOpening (opening s ++ (escapeAll 2 true 0 s ++ '"' :: rest))
      = escapeAll 2 true 0 s ++ '"' :: rest := by
  refine afterOpening_opening fun absent => ?_
  rcases s with _ | ⟨c, s⟩
  · exact ⟨by simp [escapeAll], by simp [escapeAll]⟩
  by_cases quote : c = '"'
  · rw [quote, escapeAll_quote_of_lt (by decide)]
    exact ⟨by simp, by simp⟩
  have no_line : c ≠ '\n' := fun same => absent (same ▸ List.mem_cons_self)
  rcases escapeAll_cons quote 2 true (fun same => absurd same no_line) 0 s with
    ⟨plain, -, eq⟩ | ⟨esc, -, eq⟩
  · simp [eq, no_line, ne_return_of_isPlain plain]
  · simp [eq]

theorem afterOpening_append {s : List Char} (plain : ∀ c ∈ s, c = '\n' ∨ isPlain c = true)
    (rest : List Char) :
    afterOpening (opening s ++ (s ++ '\'' :: rest)) = s ++ '\'' :: rest := by
  refine afterOpening_opening fun absent => ?_
  rcases s with _ | ⟨c, s⟩
  · exact ⟨by simp, by simp⟩
  have no_line : c ≠ '\n' := fun same => absent (same ▸ List.mem_cons_self)
  have first := (plain c List.mem_cons_self).resolve_left no_line
  simp [no_line, ne_return_of_isPlain first]

theorem isPlain_of_mem {s : List Char} (uncoded : s.any needsCode = false) {c : Char}
    (there : c ∈ s) : c = '\n' ∨ isPlain c = true := by
  have kept : needsCode c = false := Bool.eq_false_iff.mpr (List.any_eq_false.mp uncoded c there)
  simp only [needsCode, Bool.and_eq_false_iff, Bool.not_eq_false', decide_eq_false_iff_not,
    ne_eq, Decidable.not_not] at kept
  exact kept.symm

/-- A text in single quotes on one line has something in it, and nothing that needs another form. -/
theorem of_formOf_literal {s : List Char} (form : formOf s = .literal) :
    s ≠ [] ∧ (∀ c ∈ s, isPlain c = true) ∧ '\'' ∉ s := by
  rw [formOf] at form
  refine ⟨fun empty => by simp [empty, longestRun] at form, ?_⟩
  split at form
  · cases form
  split at form
  · next some fits =>
    simp only [Bool.and_eq_true, Bool.not_eq_true', decide_eq_true_eq] at fits
    obtain ⟨⟨uncoded, none⟩, unlined⟩ := fits
    refine ⟨fun c there => (isPlain_of_mem uncoded there).resolve_left ?_, fun there => ?_⟩
    · rintro rfl
      exact Bool.eq_false_iff.mp unlined (List.contains_iff_mem.mpr there)
    · obtain ⟨before, after, rfl⟩ := List.append_of_mem there
      have one : List.replicate 1 '\'' <:+: before ++ '\'' :: after := ⟨before, after, by simp⟩
      have run := le_longestRun one
      omega
  · split at form
    · cases form
    split at form
    · cases form
    split at form <;> cases form

theorem of_formOf_literalLines {s : List Char} (form : formOf s = .literalLines) :
    (∀ c ∈ s, c = '\n' ∨ isPlain c = true) ∧ ¬ List.replicate 3 '\'' <:+: s := by
  rw [formOf] at form
  split at form
  · cases form
  split at form
  · cases form
  split at form
  · cases form
  split at form
  · next fits =>
    simp only [Bool.and_eq_true, Bool.not_eq_true', decide_eq_true_eq] at fits
    refine ⟨fun c there => isPlain_of_mem fits.1 there, fun three => ?_⟩
    have run := le_longestRun three
    omega
  · split at form <;> cases form

theorem string?_of_basic {r : List Char} (apart : r.take 2 ≠ ['"', '"']) :
    string? ('"' :: r) = basic [] r := by
  rw [string?.eq_def]
  split
  · next eq => exact absurd (by simp [(List.cons.inj eq).2]) apart
  · next eq => exact absurd (List.cons.inj eq).1 (by decide)
  · next eq => rw [(List.cons.inj eq).2]
  · next eq => exact absurd (List.cons.inj eq).1 (by decide)
  · next unmatched _ => exact absurd rfl (unmatched r)

theorem string?_of_literal {r : List Char} (apart : r.take 2 ≠ ['\'', '\'']) :
    string? ('\'' :: r) = literal [] r := by
  rw [string?.eq_def]
  split
  · next eq => exact absurd (List.cons.inj eq).1 (by decide)
  · next eq => exact absurd (by simp [(List.cons.inj eq).2]) apart
  · next eq => exact absurd (List.cons.inj eq).1 (by decide)
  · next eq => rw [(List.cons.inj eq).2]
  · next unmatched => exact absurd rfl (unmatched r)

/-- **A string is read as what was written**, whatever text it is, where no quote follows. -/
theorem string?_writeString (text : String) {rest : List Char} (ends : rest.head? ≠ some '"')
    (ends' : rest.head? ≠ some '\'') :
    string? (writeString text ++ rest) = some (text, rest) := by
  have back : String.ofList text.toList = text := String.ofList_toList
  rw [writeString]
  generalize text.toList = s at back ⊢
  subst back
  cases form : formOf s with
  | basic =>
    have read := basic_escapeAll s 0 [] rest
    simp only [List.cons_append, List.append_assoc, List.nil_append]
    rw [string?_of_basic ?_, read, List.reverse_nil, List.nil_append]
    rcases s with _ | ⟨c, s⟩
    · rcases rest with _ | ⟨d, rest⟩
      · simp [escapeAll]
      · have other : d ≠ '"' := fun same => ends (same ▸ rfl)
        simp [escapeAll, other]
    · have enough : c ≠ '"' ∨ 0 ≤ 0 := .inr (Nat.le_refl 0)
      obtain ⟨d, t, eq, other⟩ := exists_head_escapeAll enough false s
      simp [eq, other]
  | literal =>
    obtain ⟨some, plain, unquoted⟩ := of_formOf_literal form
    have read := literal_append plain unquoted [] rest
    simp only [List.cons_append, List.append_assoc, List.nil_append]
    rw [string?_of_literal ?_, read, List.reverse_nil, List.nil_append]
    obtain ⟨c, s, rfl⟩ := List.exists_cons_of_ne_nil some
    have other : c ≠ '\'' := fun same => unquoted (same ▸ List.mem_cons_self)
    simp [other]
  | basicLines =>
    have read := basicLines_escapeAll ends s (Nat.zero_le 2) []
    simp only [List.cons_append, List.append_assoc, List.nil_append]
    rw [string?, afterOpening_escapeAll, read, List.reverse_nil, List.nil_append]
  | literalLines =>
    obtain ⟨plain, few⟩ := of_formOf_literalLines form
    have read := literalLines_append ends' plain few []
    simp only [List.cons_append, List.append_assoc, List.nil_append]
    rw [string?, afterOpening_append plain, read, List.reverse_nil, List.nil_append]

end NestedSession.Toml
