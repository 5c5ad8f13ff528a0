import NestedSession.Text.Utf8

/-!
# Environment/Variables — names and values of a process environment

A set of variables is a list of names and values in increasing order of the names, each name once;
names and values are any octets.  `get?_insert` says what entering a variable changes.
-/

namespace NestedSession

/-- Variables in increasing order of their names. -/
structure Variables where
  entries : List (Octets × Octets)
  deriving DecidableEq, Repr, Inhabited

namespace Variables

/-- No variable. -/
def empty : Variables := ⟨[]⟩

/-- Enter a variable into ordered entries. -/
def insertEntry (name value : Octets) : List (Octets × Octets) → List (Octets × Octets)
  | [] => [(name, value)]
  | (n, v) :: rest =>
    if name = n then (name, value) :: rest
    else if name < n then (name, value) :: (n, v) :: rest
    else (n, v) :: insertEntry name value rest

/-- Set a variable. -/
def insert (name value : Octets) (vars : Variables) : Variables :=
  ⟨insertEntry name value vars.entries⟩

/-- **The variables of a list of settings**, later ones winning. -/
def ofList (pairs : List (Octets × Octets)) : Variables :=
  pairs.foldl (fun vars (name, value) => vars.insert name value) empty

/-- Set one variable after the other. -/
def insertAll (vars : Variables) (pairs : List (Octets × Octets)) : Variables :=
  pairs.foldl (fun vars (name, value) => vars.insert name value) vars

/-- The value of a variable. -/
def get? (vars : Variables) (name : Octets) : Option Octets := vars.entries.lookup name

/-- The value of a variable that is set to something. -/
def getNonEmpty? (vars : Variables) (name : Octets) : Option Octets :=
  (vars.get? name).filter (!·.isEmpty)

/-- The value of a variable, if it is a text. -/
def text? (vars : Variables) (name : String) : Option String :=
  (vars.get? (Utf8.encode name)).bind Utf8.decode?

theorem lookup_cons_ite (key : Octets) (e : Octets × Octets) (es : List (Octets × Octets)) :
    (e :: es).lookup key = if key = e.1 then some e.2 else es.lookup key := by
  obtain ⟨n, v⟩ := e
  rw [List.lookup_cons]
  by_cases h : key = n
  · rw [beq_iff_eq.2 h, if_pos h]
  · rw [beq_eq_false_iff_ne.2 h, if_neg h]

theorem lookup_insertEntry (name value key : Octets) (es : List (Octets × Octets)) :
    (insertEntry name value es).lookup key = if key = name then some value else es.lookup key := by
  induction es with
  | nil => rw [insertEntry, lookup_cons_ite]
  | cons e es ih =>
    obtain ⟨n, v⟩ := e
    rw [insertEntry, lookup_cons_ite]
    by_cases hn : name = n
    · rw [if_pos hn, lookup_cons_ite, hn]
      by_cases hk : key = n
      · rw [if_pos hk, if_pos hk]
      · rw [if_neg hk, if_neg hk, if_neg hk]
    · rw [if_neg hn]
      by_cases hl : name < n
      · rw [if_pos hl, lookup_cons_ite, lookup_cons_ite]
      · rw [if_neg hl, lookup_cons_ite, ih]
        by_cases hk : key = n
        · have hne : key ≠ name := fun h => hn (h.symm.trans hk)
          rw [if_pos hk, if_neg hne, if_pos hk]
        · rw [if_neg hk, if_neg hk]

/-- **Setting a variable changes that variable alone.** -/
theorem get?_insert (vars : Variables) (name value key : Octets) :
    (vars.insert name value).get? key = if key = name then some value else vars.get? key :=
  lookup_insertEntry name value key vars.entries

end Variables

end NestedSession
