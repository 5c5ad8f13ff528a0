import NestedSession.Number.Binary64

/-!
# Toml/Tree — the tables of a TOML document

A document is a tree of tables.  Every value knows how many characters of the document were left
where it starts (`Nat` beside it), and every table knows how it came to be (`Origin`), because that
decides what may still be added to it:

* a header may name each table once, and may fill in one that was only implied;
* dotted keys may extend tables that dotted keys made, or that were only implied;
* an inline table is closed.
-/

namespace NestedSession.Toml

/-- How a table came to be. -/
inductive Origin where
  /-- A header names it. -/
  | header
  /-- A header names a table inside it. -/
  | implied
  /-- A dotted key leads through it. -/
  | dotted
  /-- It stands in braces. -/
  | inline
  deriving DecidableEq, Repr, Inhabited

/-- A value of a document. -/
inductive Tree where
  | text (value : String)
  /-- A whole number of at most 128 bits, signed or not. -/
  | integer (value : Int)
  | float (value : Binary64)
  | boolean (value : Bool)
  /-- A date, a time or both. -/
  | dateTime
  /-- A number that no format of the language can hold. -/
  | outOfRange
  /-- Values in brackets. -/
  | array (items : List (Nat × Tree))
  /-- Tables whose headers stand in double brackets. -/
  | tables (items : List (Nat × Tree))
  | table (origin : Origin) (entries : List (String × Nat × Tree))
  deriving Repr, Inhabited

/-- The entries of a table, in the order of the document. -/
abbrev Entries := List (String × Nat × Tree)

/-- A part of a key, and how many characters were left where it starts. -/
structure Key where
  name : String
  place : Nat
  deriving DecidableEq, Repr

namespace Entries

/-- Give a key that is already there another value. -/
def replace (name : String) (value : Nat × Tree) (es : Entries) : Entries :=
  es.map fun e => if e.1 = name then (name, value) else e

/-- **Enter a value under a dotted key.** -/
def assign : List Key → Nat × Tree → Entries → Option Entries
  | [], _, _ => none
  | [k], value, es =>
    match es.lookup k.name with
    | none => some (es ++ [(k.name, value)])
    | some _ => none
  | k :: ks, value, es =>
    match es.lookup k.name with
    | none => do
      let sub ← assign ks value []
      some (es ++ [(k.name, k.place, .table .dotted sub)])
    | some (place, .table origin sub) =>
      if origin = .dotted ∨ origin = .implied then do
        let sub ← assign ks value sub
        some (es.replace k.name (place, .table origin sub))
      else none
    | some _ => none

/-- **Go through the tables of a header** and change the one that its last part is in.  A table
that is missing is implied; of tables in double brackets the last one is meant. -/
def descend (change : Key → Entries → Option Entries) : List Key → Entries → Option Entries
  | [], _ => none
  | [k], es => change k es
  | k :: ks, es =>
    match es.lookup k.name with
    | none => do
      let sub ← descend change ks []
      some (es ++ [(k.name, k.place, .table .implied sub)])
    | some (place, .table origin sub) =>
      if origin = .inline then none
      else do
        let sub ← descend change ks sub
        some (es.replace k.name (place, .table origin sub))
    | some (place, .tables items) =>
      match items.getLast? with
      | some (at_, .table origin sub) => do
        let sub ← descend change ks sub
        some (es.replace k.name (place, .tables (items.dropLast ++ [(at_, .table origin sub)])))
      | _ => none
    | some _ => none

/-- A header in single brackets opens a table that no header has opened yet. -/
def openTable (place : Nat) (k : Key) (es : Entries) : Option Entries :=
  match es.lookup k.name with
  | none => some (es ++ [(k.name, place, .table .header [])])
  | some (_, .table .implied sub) => some (es.replace k.name (place, .table .header sub))
  | some _ => none

/-- A header in double brackets opens one more table of its array. -/
def openElement (place : Nat) (k : Key) (es : Entries) : Option Entries :=
  match es.lookup k.name with
  | none => some (es ++ [(k.name, place, .tables [(place, .table .header [])])])
  | some (first, .tables items) =>
    some (es.replace k.name (first, .tables (items ++ [(place, .table .header [])])))
  | some _ => none

/-- Change the entries of the table that the last header opened. -/
def within (change : Entries → Option Entries) : List Key → Entries → Option Entries
  | [], es => change es
  | k :: ks, es =>
    match es.lookup k.name with
    | some (place, .table origin sub) => do
      let sub ← within change ks sub
      some (es.replace k.name (place, .table origin sub))
    | some (place, .tables items) =>
      match items.getLast? with
      | some (at_, .table origin sub) => do
        let sub ← within change ks sub
        some (es.replace k.name (place, .tables (items.dropLast ++ [(at_, .table origin sub)])))
      | _ => none
    | _ => none

end Entries

end NestedSession.Toml
