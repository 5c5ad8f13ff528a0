import NestedSession.CommandLine.Reading

/-!
# Proofs/CommandLine/Spelling — how the switches of a run are spelled

Behind `run` a switch can be spelled in several ways, and its value may stand in a word of its own
(`Word.Spells`).  That makes no difference: however switches are spelled, they are taken in one
after the other, in the order of the command line (`Scope.read_run`).
-/

namespace NestedSession

/-- A switch as it is asked for, with its value if it takes one. -/
abbrev Ask := Switch × Option Octets

/-- Take in a switch that is asked for. -/
def Given.enter (g : Given) (ask : Ask) : Except Misuse Given :=
  match ask.2 with
  | some value => g.take ask.1 value
  | none => g.flip ask.1

namespace Word

/-- The word of a long name, without a value. -/
def ofLong (s : Switch) : Octets := dash :: dash :: Utf8.encode s.long

/-- The word of a short name, without a value. -/
def ofShort (c : Char) : Octets := [dash, UInt8.ofNat c.toNat]

/-- **The ways to spell a switch.**  A value in a word of its own must not look like a switch, and
one that follows a short name at once is not empty and does not begin with `=`. -/
inductive Spells : List Octets → Ask → Prop
  | alone {s : Switch} (takes : s.valueName? = none) : Spells [ofLong s] (s, none)
  | long {s : Switch} {value : Octets} (takes : s.valueName?.isSome = true) :
      Spells [ofLong s ++ equals :: value] (s, some value)
  | longApart {s : Switch} {value : Octets} (takes : s.valueName?.isSome = true)
      (plain : ofOctets value = .plain) : Spells [ofLong s, value] (s, some value)
  | short {s : Switch} {c : Char} {value : Octets} (letter : s.short? = some c)
      (takes : s.valueName?.isSome = true) :
      Spells [ofShort c ++ equals :: value] (s, some value)
  | shortAtOnce {s : Switch} {c : Char} {b : UInt8} {value : Octets} (letter : s.short? = some c)
      (takes : s.valueName?.isSome = true) (apart : b ≠ equals) :
      Spells [ofShort c ++ b :: value] (s, some (b :: value))
  | shortApart {s : Switch} {c : Char} {value : Octets} (letter : s.short? = some c)
      (takes : s.valueName?.isSome = true) (plain : ofOctets value = .plain) :
      Spells [ofShort c, value] (s, some value)

/-- **Words that spell switches of a run**, one after the other. -/
inductive SpellAll : List Octets → List Ask → Prop
  | nil : SpellAll [] []
  | cons {ws words : List Octets} {ask : Ask} {asked : List Ask} (first : Spells ws ask)
      (known : ask.1 ∈ Scope.run.switches) (rest : SpellAll words asked) :
      SpellAll (ws ++ words) (ask :: asked)

theorem long_apart (s : Switch) : equals ∉ Utf8.encode s.long ∧ Utf8.encode s.long ≠ [] := by
  cases s <;> decide

theorem ofOctets_ofLong (s : Switch) : ofOctets (ofLong s) = .long (Utf8.encode s.long) none := by
  cases s <;> decide

theorem ofOctets_ofLong_append (s : Switch) (value : Octets) :
    ofOctets (ofLong s ++ equals :: value) = .long (Utf8.encode s.long) (some value) := by
  obtain ⟨absent, some⟩ := long_apart s
  have apart : ∀ b ∈ Utf8.encode s.long, decide (b ≠ equals) = true := fun b there =>
    decide_eq_true fun eq => absent (eq ▸ there)
  have full : (Utf8.encode s.long ++ equals :: value).isEmpty = false := by simp
  simp only [ofLong, List.cons_append, ofOctets, ne_eq, not_true_eq_false, if_false, full,
    Bool.false_eq_true, valueIn]
  rw [List.takeWhile_append_of_pos (by simpa using apart),
    List.dropWhile_append_of_pos (by simpa using apart)]
  simp

theorem ofOctets_ofShort {s : Switch} {c : Char} (letter : s.short? = some c) (rest : Octets) :
    ofOctets (ofShort c ++ rest) = .short (UInt8.ofNat c.toNat :: rest) := by
  have apart : UInt8.ofNat c.toNat ≠ dash := by
    cases s <;> cases letter <;> decide
  simp [ofShort, ofOctets, apart]

end Word

open Word

namespace Scope

/-! ## One word -/

variable {vars : Variables} {caller : Option String} {r : Reading}

theorem long?_run {s : Switch} (known : s ∈ run.switches) :
    run.long? (Utf8.encode s.long) = some s := by
  revert s
  decide

theorem short?_run {s : Switch} {c : Char} (known : s ∈ run.switches) (letter : s.short? = some c) :
    run.short? (UInt8.ofNat c.toNat) = some s := by
  cases s <;> cases letter <;> revert known <;> decide

/-- A word with a long name. -/
theorem read_of_long {word name : Octets} {value : Option Octets}
    (spelled : ofOctets word = .long name value) (rest : List Octets) :
    run.read vars caller r (word :: rest)
      = r.meetLong run name value >>= fun r => run.read vars caller r rest := by
  have command : run.command? word = none := rfl
  have help : run.isHelp word = false := rfl
  rw [read.eq_def]
  cases owed : r.owed? <;>
    simp only [owed, command, help, Bool.and_false, Bool.false_eq_true, if_false, spelled]

/-- A word with short names. -/
theorem read_of_short {word names : Octets} (spelled : ofOctets word = .short names)
    (rest : List Octets) :
    run.read vars caller r (word :: rest)
      = r.meetShort run names >>= fun r => run.read vars caller r rest := by
  have command : run.command? word = none := rfl
  have help : run.isHelp word = false := rfl
  rw [read.eq_def]
  cases owed : r.owed? <;>
    simp only [owed, command, help, Bool.and_false, Bool.false_eq_true, if_false, spelled]

/-- A word that is the value owed. -/
theorem read_of_owed {word : Octets} {s : Switch} {g : Given} (plain : ofOctets word = .plain)
    (rest : List Octets) :
    run.read vars caller ⟨g, some (s, none)⟩ (word :: rest)
      = run.read vars caller ⟨g, some (s, some word)⟩ rest := by
  have command : run.command? word = none := rfl
  rw [read.eq_def]
  simp only [Reading.owed?, command, Option.isNone_some, Bool.false_and, Bool.false_eq_true,
    if_false, plain]

end Scope

namespace Reading

variable {r : Reading} {s : Switch}

theorem settle_given (g : Given) : (⟨g, none⟩ : Reading).settle = .ok g := rfl

theorem meet_value (value : Octets) :
    r.meet s (some value)
      = r.settle >>= fun g => g.enter (s, some value) >>= fun g => pure ⟨g, none⟩ := rfl

theorem meet_alone (takes : s.valueName? = none) :
    r.meet s none = r.settle >>= fun g => g.enter (s, none) >>= fun g => pure ⟨g, none⟩ := by
  simp only [meet, takes, Option.isSome_none, Bool.false_eq_true, if_false]
  rfl

theorem meet_apart (takes : s.valueName?.isSome = true) :
    r.meet s none = r.settle >>= fun g => pure ⟨g, some (s, none)⟩ := by
  simp only [meet, takes, if_true]

theorem meetLong_run (known : s ∈ Scope.run.switches) {value : Option Octets}
    (fits : value.isSome = true → s.valueName?.isSome = true) :
    r.meetLong .run (Utf8.encode s.long) value = r.meet s value := by
  rw [meetLong.eq_def, Scope.long?_run known]
  cases value with
  | none => rfl
  | some value => simp only [fits rfl, if_true]

theorem meetShort_run (known : s ∈ Scope.run.switches) {c : Char} (letter : s.short? = some c)
    (takes : s.valueName?.isSome = true) (rest : Octets) :
    r.meetShort .run (UInt8.ofNat c.toNat :: rest) = r.meet s (attached? rest) := by
  rw [meetShort, Scope.short?_run known letter]
  simp only [takes, if_true]

end Reading

/-! ## All words -/

namespace Scope

variable {vars : Variables} {caller : Option String}

/-- What a scope ends with depends on what was taken in alone. -/
theorem finish_eq (scope : Scope) (name : String) (r : Reading) :
    scope.finish name vars r = r.settle >>= fun g => scope.finish name vars ⟨g, none⟩ := by
  cases settled : r.settle with
  | error why => simp only [finish, settled, bind, Except.bind]
  | ok g => simp only [finish, settled, Reading.settle_given, bind, Except.bind]

/-- **However switches are spelled, they are taken in one after the other**, behind what is
pending. -/
theorem read_run {words : List Octets} {asked : List Ask} (spelled : SpellAll words asked)
    (r : Reading) (ready : r.owed? = none) :
    run.read vars caller r words = r.settle >>= fun g => asked.foldlM Given.enter g >>= fun g =>
      run.finish (caller.getD "phosh-itest") vars ⟨g, none⟩ := by
  induction spelled generalizing r with
  | nil => exact finish_eq run _ r
  | @cons ws words ask asked first known _ ih =>
    have given (g : Given) : run.read vars caller ⟨g, none⟩ words
        = asked.foldlM Given.enter g >>= fun g =>
          run.finish (caller.getD "phosh-itest") vars ⟨g, none⟩ := ih ⟨g, none⟩ rfl
    have pending (g : Given) (s : Switch) (value : Octets) :
        run.read vars caller ⟨g, some (s, some value)⟩ words
          = g.enter (s, some value) >>= fun g => asked.foldlM Given.enter g >>= fun g =>
            run.finish (caller.getD "phosh-itest") vars ⟨g, none⟩ :=
      ih ⟨g, some (s, some value)⟩ rfl
    cases first with
    | @alone s takes =>
      rw [List.singleton_append, read_of_long (ofOctets_ofLong s),
        Reading.meetLong_run known (by simp), Reading.meet_alone takes]
      simp only [bind_assoc, pure_bind, given, List.foldlM_cons]
    | @long s value takes =>
      rw [List.singleton_append, read_of_long (ofOctets_ofLong_append s value),
        Reading.meetLong_run known fun _ => takes, Reading.meet_value]
      simp only [bind_assoc, pure_bind, given, List.foldlM_cons]
    | @longApart s value takes plain =>
      rw [List.cons_append, List.singleton_append, read_of_long (ofOctets_ofLong s),
        Reading.meetLong_run known (by simp), Reading.meet_apart takes]
      simp only [bind_assoc, pure_bind, read_of_owed plain, pending, List.foldlM_cons]
    | @short s c value letter takes =>
      rw [List.singleton_append, read_of_short (ofOctets_ofShort letter _),
        Reading.meetShort_run known letter takes, attached?, if_pos rfl, Reading.meet_value]
      simp only [bind_assoc, pure_bind, given, List.foldlM_cons]
    | @shortAtOnce s c b value letter takes apart =>
      rw [List.singleton_append, read_of_short (ofOctets_ofShort letter _),
        Reading.meetShort_run known letter takes, attached?, if_neg apart, Reading.meet_value]
      simp only [bind_assoc, pure_bind, given, List.foldlM_cons]
    | @shortApart s c value letter takes plain =>
      rw [List.cons_append, List.singleton_append, ← List.append_nil (ofShort c),
        read_of_short (ofOctets_ofShort letter _), Reading.meetShort_run known letter takes,
        attached?, Reading.meet_apart takes]
      simp only [bind_assoc, pure_bind, read_of_owed plain, pending, List.foldlM_cons]

end Scope

end NestedSession
