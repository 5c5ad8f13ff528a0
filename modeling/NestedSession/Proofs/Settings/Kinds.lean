import Mathlib.Data.List.TakeWhile
import Mathlib.Data.Nat.Digits.Defs
import NestedSession.Settings.Overlay

/-!
# Proofs/Settings/Kinds — what a text says where a setting is wanted

The settings are texts, truth values, counts and lists of words, and what a text says depends on
which of these is wanted (`Kind.Says`).

* A text has words, which are as long as they can be (`Text.AreWords`).  Cutting it at every blank
  and leaving out what is empty finds them, and nothing else does (`Text.words_eq_iff`).  Words that
  are joined by single spaces are found again (`Text.areWords_intercalate`).
* A text writes a count if it is decimal digits that denote a number below `2 ^ 64`, perhaps behind
  a plus sign (`Count.Writes`).  It is then read as that, and else as nothing
  (`Count.read_eq_ok_iff`): no beginning of the digits denotes more than all of them.
-/

namespace NestedSession

/-! ## Words -/

namespace Text

/-- **The words of some characters, in order.**  White space is passed over, and a word goes on to
the next white space or to the end. -/
inductive AreWords : List Char → List String → Prop
  | nil : AreWords [] []
  | blank {c : Char} {cs : List Char} {ws : List String} (white : isBlank c = true)
      (h : AreWords cs ws) : AreWords (c :: cs) ws
  | word {run rest : List Char} {ws : List String} (some_ : run ≠ [])
      (solid : ∀ c ∈ run, isBlank c = false) (ends : rest.head?.all isBlank = true)
      (h : AreWords rest ws) : AreWords (run ++ rest) (.ofList run :: ws)

/-- A text that is one word. -/
def IsWord (w : String) : Prop := w ≠ "" ∧ ∀ c ∈ w.toList, isBlank c = false

/-- The words that cutting finds. -/
def wordsOf (cs : List Char) : List String :=
  ((cs.splitOnP isBlank).filter (!·.isEmpty)).map .ofList

variable {c : Char} {cs run rest : List Char} {ws : List String}

theorem wordsOf_cons (white : isBlank c = true) : wordsOf (c :: cs) = wordsOf cs := by
  rw [wordsOf, List.splitOnP_cons_eq_if_modifyHead, if_pos white]
  rfl

theorem wordsOf_append (some_ : run ≠ []) (solid : ∀ c ∈ run, isBlank c = false)
    (ends : rest.head?.all isBlank = true) : wordsOf (run ++ rest) = .ofList run :: wordsOf rest := by
  have kept : run.isEmpty = false := by simpa using some_
  cases rest with
  | nil =>
    rw [List.append_nil, wordsOf, List.splitOnP_eq_singleton solid]
    simp [kept, wordsOf]
  | cons c cs =>
    have white : isBlank c = true := by simpa using ends
    rw [wordsOf_cons white, wordsOf, List.splitOnP_append_cons_of_forall_mem solid c white]
    simp [kept, wordsOf]

/-- What is not blank ends where something blank stands, or at the end. -/
theorem all_head?_dropWhile (cs : List Char) :
    (cs.dropWhile (!isBlank ·)).head?.all isBlank = true := by
  have first := List.head?_dropWhile_not (!isBlank ·) cs
  revert first
  cases (cs.dropWhile (!isBlank ·)).head? <;> simp

theorem areWords_wordsOf (cs : List Char) : AreWords cs (wordsOf cs) := by
  induction size : cs.length using Nat.strong_induction_on generalizing cs with
  | _ n ih =>
    subst size
    rcases cs with _ | ⟨c, cs⟩
    · exact .nil
    cases white : isBlank c with
    | true =>
      rw [wordsOf_cons white]
      exact .blank white (ih _ (Nat.lt_succ_self _) cs rfl)
    | false =>
      have some_ : (c :: cs).takeWhile (!isBlank ·) ≠ [] := by simp [white]
      have solid : ∀ d ∈ (c :: cs).takeWhile (!isBlank ·), isBlank d = false := fun d mem => by
        simpa using List.mem_takeWhile_imp mem
      have ends := all_head?_dropWhile (c :: cs)
      have shorter : ((c :: cs).dropWhile (!isBlank ·)).length < (c :: cs).length := by
        rw [List.dropWhile_cons_of_pos (by simp [white])]
        exact Nat.lt_succ_of_le (List.dropWhile_sublist _).length_le
      rw [← List.takeWhile_append_dropWhile (p := (!isBlank ·)) (l := c :: cs)]
      rw [wordsOf_append some_ solid ends]
      exact .word some_ solid ends (ih _ shorter _ rfl)

theorem wordsOf_eq_iff : wordsOf cs = ws ↔ AreWords cs ws := by
  refine ⟨fun eq => eq ▸ areWords_wordsOf cs, fun h => ?_⟩
  induction h with
  | nil => rfl
  | blank white _ ih => rw [wordsOf_cons white, ih]
  | word some_ solid ends _ ih => rw [wordsOf_append some_ solid ends, ih]

/-- **What the words of a text are.** -/
theorem words_eq_iff {text : String} : words text = ws ↔ AreWords text.toList ws := wordsOf_eq_iff

theorem AreWords.isWord (h : AreWords cs ws) : ∀ w ∈ ws, IsWord w := by
  induction h with
  | nil => nofun
  | blank _ _ ih => exact ih
  | @word run _ _ some_ solid _ _ ih =>
    refine List.forall_mem_cons.mpr ⟨⟨fun empty => some_ ?_, ?_⟩, ih⟩
    · exact String.ofList_eq_empty_iff.mp empty
    · rwa [String.toList_ofList]

/-- **Words joined by single spaces** are the words of what that gives. -/
theorem areWords_intercalate (each : ∀ w ∈ ws, IsWord w) :
    AreWords (" ".intercalate ws).toList ws := by
  rw [String.toList_intercalate]
  induction ws with
  | nil => exact .nil
  | cons w ws ih =>
    obtain ⟨⟨some_, solid⟩, each⟩ := List.forall_mem_cons.mp each
    have some_ : w.toList ≠ [] := by simpa using some_
    have whole : String.ofList w.toList = w := String.ofList_toList
    cases ws with
    | nil => simpa [whole] using AreWords.word some_ solid rfl .nil
    | cons v ws =>
      have behind := AreWords.blank (c := ' ') rfl (ih each)
      simpa [whole] using AreWords.word some_ solid rfl behind

end Text

/-! ## Counts -/

namespace Count

/-- The number that a decimal digit stands for. -/
def digitOf (c : Char) : ℕ := c.toNat - 48

/-- **A text that writes a count.** -/
def Writes (text : String) (n : UInt64) : Prop :=
  ∃ digits : List Char, (text.toList = digits ∨ text.toList = '+' :: digits) ∧ digits ≠ []
    ∧ (∀ c ∈ digits, c.isDigit = true) ∧ Nat.ofDigits 10 (digits.reverse.map digitOf) = n.toNat

/-- What digits behind those that make `n` come to. -/
def behind (n : ℕ) (digits : List Char) : ℕ := digits.foldl (fun n c => 10 * n + digitOf c) n

theorem behind_zero (digits : List Char) :
    behind 0 digits = Nat.ofDigits 10 (digits.reverse.map digitOf) := by
  rw [Nat.ofDigits_eq_foldr, List.foldr_map, List.foldr_reverse, behind]
  congr 1
  funext n c
  exact Nat.add_comm _ _

theorem le_behind (n : ℕ) (digits : List Char) : n ≤ behind n digits := by
  induction digits generalizing n with
  | nil => exact le_rfl
  | cons c digits ih =>
    have first : n ≤ 10 * n + digitOf c := by omega
    exact first.trans (ih _)

theorem readDigits_eq_ok_iff {m n : ℕ} {cs : List Char} : readDigits m cs = .ok n
    ↔ (∀ c ∈ cs, c.isDigit = true) ∧ behind m cs = n ∧ (cs ≠ [] → n < UInt64.size) := by
  induction cs generalizing m with
  | nil => simp [readDigits, behind]
  | cons c cs ih =>
    have next : behind m (c :: cs) = behind (10 * m + digitOf c) cs := rfl
    rw [next, readDigits, List.forall_mem_cons, ← digitOf]
    generalize 10 * m + digitOf c = m'
    cases digit : c.isDigit with
    | false => simp
    | true =>
      by_cases small : m' < UInt64.size
      · simp only [small, if_true, ih, Bool.not_true, Bool.false_eq_true, if_false, true_and]
        have alone (value : behind m' cs = n) (none : cs = []) : n < UInt64.size := by
          rwa [← value, none]
        have all : behind m' cs = n → ((cs ≠ [] → n < UInt64.size)
            ↔ (c :: cs ≠ [] → n < UInt64.size)) := fun value =>
          ⟨fun h _ => (em (cs = [])).elim (alone value) h, fun h _ => h (List.cons_ne_nil c cs)⟩
        exact and_congr_right fun _ => and_congr_right all
      · have large := le_behind m' cs
        simp only [small, if_false, Bool.not_true, Bool.false_eq_true]
        constructor
        · nofun
        · rintro ⟨-, rfl, fits⟩
          exact absurd (large.trans_lt (fits (List.cons_ne_nil c cs))) small

/-- The digits of a text, behind a sign that is not alone. -/
def digitsOf : List Char → List Char
  | '+' :: c :: rest => c :: rest
  | cs => cs

theorem read_eq (text : String) : read text =
    if (digitsOf text.toList).isEmpty then .error .empty
    else (readDigits 0 (digitsOf text.toList)).map UInt64.ofNat := rfl

theorem digitsOf_cases (cs : List Char) : cs = digitsOf cs ∨ cs = '+' :: digitsOf cs := by
  fun_cases digitsOf cs
  · exact .inr rfl
  · exact .inl rfl

theorem digitsOf_of_isDigit {cs digits : List Char} (spelled : cs = digits ∨ cs = '+' :: digits)
    (some_ : digits ≠ []) (each : ∀ c ∈ digits, c.isDigit = true) : digitsOf cs = digits := by
  obtain ⟨c, rest, rfl⟩ := List.exists_cons_of_ne_nil some_
  rcases spelled with rfl | rfl
  · have unsigned : c ≠ '+' := by
      rintro rfl
      exact absurd (each _ List.mem_cons_self) (by decide)
    rw [digitsOf]
    rintro _ _ ⟨⟩
    exact unsigned rfl
  · rfl

theorem writes_of_read {text : String} {n : UInt64} (ok : read text = .ok n) : Writes text n := by
  rw [read_eq] at ok
  split at ok
  · cases ok
  · next some_ =>
    have some_ : digitsOf text.toList ≠ [] := by simpa using some_
    cases digits : readDigits 0 (digitsOf text.toList) with
    | error why => simp [digits, Except.map] at ok
    | ok m =>
      obtain ⟨each, value, fits⟩ := readDigits_eq_ok_iff.mp digits
      have n_eq : UInt64.ofNat m = n := by simpa [digits, Except.map] using ok
      refine ⟨_, digitsOf_cases text.toList, some_, each, ?_⟩
      rw [← behind_zero, value, ← n_eq, UInt64.toNat_ofNat_of_lt' (fits some_)]

/-- **What is read as a count.** -/
theorem read_eq_ok_iff {text : String} {n : UInt64} : read text = .ok n ↔ Writes text n := by
  refine ⟨writes_of_read, ?_⟩
  rintro ⟨digits, spelled, some_, each, value⟩
  have read : readDigits 0 digits = .ok n.toNat :=
    readDigits_eq_ok_iff.mpr ⟨each, by rw [behind_zero, value], fun _ => n.toNat_lt_size⟩
  rw [read_eq, digitsOf_of_isDigit spelled some_ each, if_neg (by simpa using some_), read]
  exact congrArg Except.ok UInt64.ofNat_toNat

end Count

/-! ## Kinds -/

/-- The kinds of settings. -/
inductive Kind where
  | text
  | truth
  | count
  | words
  deriving DecidableEq, Repr

namespace Kind

/-- The values of a kind. -/
abbrev Value : Kind → Type
  | text => String
  | truth => Bool
  | count => UInt64
  | words => List String

/-- **What a text says** where a value of a kind is wanted: itself, one of two words, a count in
decimal, or its words.  Not every text says something. -/
def Says : (κ : Kind) → String → κ.Value → Prop
  | text, t, v => v = t
  | truth, t, v => t = "true" ∧ v = true ∨ t = "false" ∧ v = false
  | count, t, v => Count.Writes t v
  | words, t, v => Text.AreWords t.toList v

/-- What is read from a text. -/
def read? : (κ : Kind) → String → Option κ.Value
  | text, t => some t
  | truth, t => truthOf? t
  | count, t => (Count.read t).toOption
  | words, t => some (Text.words t)

/-- **What a text says is what is read from it.** -/
theorem read?_eq_some_iff {κ : Kind} {t : String} {v : κ.Value} :
    κ.read? t = some v ↔ κ.Says t v := by
  cases κ with
  | text => exact Option.some_inj.trans eq_comm
  | truth =>
    simp only [read?, Says, truthOf?]
    split
    · next eq => simp [eq, eq_comm]
    · split
      · next eq => simp [eq, eq_comm]
      · next other other' => simp [other, other']
  | count =>
    rw [Says, ← Count.read_eq_ok_iff, read?]
    cases Count.read t <;> simp [Except.toOption]
  | words => exact Option.some_inj.trans Text.words_eq_iff

/-- A setting of a kind under the environment. -/
def overlay : (κ : Kind) → Variables → String → κ.Value → κ.Value
  | text => Variables.overText
  | truth => Variables.overTruth
  | count => Variables.overCount
  | words => Variables.overWords

theorem overlay_eq (κ : Kind) (vars : Variables) (name : String) (old : κ.Value) :
    κ.overlay vars name old = ((vars.text? name).bind κ.read?).getD old := by
  cases κ with
  | truth | count => rfl
  | text | words =>
    simp only [overlay, Variables.overText, Variables.overWords]
    cases vars.text? name <;> rfl

end Kind

end NestedSession
