import NestedSession.Toml.Scalar

/-!
# Toml/Document — reading a document into a tree of tables

A document is a list of statements, one a line: a header, or a key with its value.  Values nest at
most eighty deep, so reading them recurses on the levels that are left; lists recurse on the
characters that are left.  `document?` first reads every statement and then builds the tables, so
whatever is wrong with the writing of a document is found before anything is asked of its values.
-/

namespace NestedSession.Toml

/-- Blanks are spaces and tabs. -/
def skipBlank (s : List Char) : List Char := s.dropWhile fun c => c = ' ' || c = '\t'

/-- Blanks, line ends and comments, which may stand between the parts of a value in brackets. -/
def skipFiller (inComment : Bool) : List Char → Option (List Char)
  | [] => some []
  | '\n' :: r => skipFiller false r
  | '\r' :: '\n' :: r => skipFiller false r
  | c :: r =>
    if inComment then if isPlain c then skipFiller true r else none
    else if c = ' ' || c = '\t' then skipFiller false r
    else if c = '#' then skipFiller true r
    else some (c :: r)

/-- What follows the end of a line; the last line may lack it. -/
def afterNewline? : List Char → Option (List Char)
  | [] => some []
  | '\n' :: r => some r
  | '\r' :: '\n' :: r => some r
  | _ => none

/-- What follows a line on which nothing but a comment may still stand. -/
def afterLine? (s : List Char) : Option (List Char) :=
  match skipBlank s with
  | '#' :: r => afterNewline? (r.dropWhile isPlain)
  | r => afterNewline? r

/-! ## Keys -/

/-- A character of a key without quotes. -/
def isBare (c : Char) : Bool := c.isAlphanum || c = '_' || c = '-'

/-- One part of a key. -/
def keyPart? (s : List Char) : Option (String × List Char) :=
  match s with
  | '"' :: r => basic [] r
  | '\'' :: r => literal [] r
  | _ =>
    let name := s.takeWhile isBare
    if name.isEmpty then none else some (String.ofList name, s.dropWhile isBare)

/-- How deep the values of a document may lie: the parts of one key, and the brackets and braces
around a value. -/
def maxNesting : Nat := 80

/-- At most so many parts joined by dots; blanks may stand around the dots. -/
def keyParts? : Nat → List Char → Option (List Key × List Char)
  | 0, _ => none
  | parts + 1, s => do
    let (name, r) ← keyPart? s
    let key : Key := ⟨name, s.length⟩
    match skipBlank r with
    | '.' :: r =>
      let (keys, r) ← keyParts? parts (skipBlank r)
      some (key :: keys, r)
    | r => some ([key], r)

/-- **A key.** -/
def key? (s : List Char) : Option (List Key × List Char) := keyParts? maxNesting s

/-! ## Values -/

/-- The values of an array up to its closing bracket; the last may have a comma after it. -/
def items? (value : List Char → Option (Tree × List Char)) :
    Nat → List Char → Option (List (Nat × Tree) × List Char)
  | 0, _ => none
  | fuel + 1, s => do
    match ← skipFiller false s with
    | ']' :: r => some ([], r)
    | s =>
      let (v, r) ← value s
      match ← skipFiller false r with
      | ']' :: r => some ([(s.length, v)], r)
      | ',' :: r =>
        let (vs, r) ← items? value fuel r
        some ((s.length, v) :: vs, r)
      | _ => none

/-- A key, an equals sign and a value, with what `gap` skips around the equals sign. -/
def assignment? (gap : List Char → Option (List Char))
    (value : List Char → Option (Tree × List Char)) (s : List Char) :
    Option ((List Key × Nat × Tree) × List Char) := do
  let (keys, r) ← key? s
  match ← gap r with
  | '=' :: r =>
    let r ← gap r
    let (v, rest) ← value r
    some ((keys, r.length, v), rest)
  | _ => none

/-- The assignments of an inline table up to its closing brace.  They may run over several lines,
keys apart. -/
def members? (value : List Char → Option (Tree × List Char)) :
    Nat → List Char → Option (List (List Key × Nat × Tree) × List Char)
  | 0, _ => none
  | fuel + 1, s => do
    match ← skipFiller false s with
    | '}' :: r => some ([], r)
    | s =>
      let (m, r) ← assignment? (skipFiller false) value s
      match ← skipFiller false r with
      | '}' :: r => some ([m], r)
      | ',' :: r =>
        let (ms, r) ← members? value fuel r
        some (m :: ms, r)
      | _ => none

/-- Enter assignments one after the other. -/
def Entries.assignAll (es : Entries) (members : List (List Key × Nat × Tree)) : Option Entries :=
  members.foldlM (fun es (keys, place, v) => es.assign keys (place, v)) es

/-- **A value**, with so many levels of brackets left. -/
def value? : Nat → List Char → Option (Tree × List Char)
  | 0, s => scalar? s
  | levels + 1, s =>
    match s with
    | '[' :: r => do
      let (vs, r) ← items? (value? levels) (r.length + 1) r
      some (.array vs, r)
    | '{' :: r => do
      let (ms, r) ← members? (value? levels) (r.length + 1) r
      let entries ← Entries.assignAll [] ms
      some (.table .inline entries, r)
    | s => scalar? s

/-! ## Statements -/

/-- A statement of a document. -/
inductive Statement where
  /-- Nothing but blanks or a comment. -/
  | blank
  /-- A header in single brackets. -/
  | header (place : Nat) (keys : List Key)
  /-- A header in double brackets. -/
  | element (place : Nat) (keys : List Key)
  /-- A key with its value. -/
  | assign (keys : List Key) (place : Nat) (value : Tree)
  deriving Repr, Inhabited

/-- A statement, without the end of its line. -/
def statement? (s : List Char) : Option (Statement × List Char) :=
  match s with
  | [] => some (.blank, [])
  | '\n' :: _ | '\r' :: _ | '#' :: _ => some (.blank, s)
  | '[' :: '[' :: r => do
    let (keys, r) ← key? (skipBlank r)
    match skipBlank r with
    | ']' :: ']' :: r => some (.element s.length keys, r)
    | _ => none
  | '[' :: r => do
    let (keys, r) ← key? (skipBlank r)
    match skipBlank r with
    | ']' :: r => some (.header s.length keys, r)
    | _ => none
  | _ => do
    let ((keys, place, v), r) ← assignment? (some ∘ skipBlank) (value? maxNesting) s
    some (.assign keys place v, r)

/-- The statements of a document, each on its line. -/
def statements? : Nat → List Char → Option (List Statement)
  | 0, _ => none
  | fuel + 1, s => do
    let (st, r) ← statement? (skipBlank s)
    let rest ← afterLine? r
    if rest.isEmpty then some [st]
    else
      let sts ← statements? fuel rest
      some (st :: sts)

/-- The tables so far, and the header that assignments belong to. -/
structure Builder where
  root : Entries
  current : List Key

/-- **Take one more statement into the tables.** -/
def Builder.add (b : Builder) : Statement → Option Builder
  | .blank => some b
  | .header place keys => do
    let root ← b.root.descend (Entries.openTable place) keys
    some ⟨root, keys⟩
  | .element place keys => do
    let root ← b.root.descend (Entries.openElement place) keys
    some ⟨root, keys⟩
  | .assign keys place v => do
    let root ← b.root.within (Entries.assign keys (place, v)) b.current
    some ⟨root, b.current⟩

/-- The tables that statements make. -/
def build? (sts : List Statement) : Option Entries :=
  (sts.foldlM Builder.add ⟨[], []⟩).map (·.root)

/-- A byte order mark at the start of a document means nothing. -/
def afterMark : List Char → List Char
  | '\uFEFF' :: r => r
  | r => r

/-- **Read a document**; what is left of it where a value starts is the value's place. -/
def document? (source : List Char) : Option Entries := do
  let body := afterMark source
  let sts ← statements? (body.length + 1) body
  build? sts

/-- **The line and column of a place**, both from 1, the column in characters. -/
def lineAndColumn (source : List Char) (place : Nat) : Nat × Nat :=
  let before := source.take (source.length - place)
  (before.count '\n' + 1, (before.reverse.takeWhile (· ≠ '\n')).length + 1)

end NestedSession.Toml
