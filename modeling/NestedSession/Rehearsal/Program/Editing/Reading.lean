import NestedSession.Rehearsal.Program.Editing.Basic
import NestedSession.Rehearsal.Program.Printing

/-!
# Rehearsal/Program/Editing/Reading — how scripts that edit lines are written

A step is a letter behind the lines it is for.  Steps end at a break or a semicolon, but texts and
names of files go on to the break.
-/

namespace NestedSession.Rehearsal.Editing

/-- What is left of a script, and the place of what was read last. -/
structure Script.Source where
  rest : List Char
  place : Nat

/-- A step of reading; a fault has the place at which it was found. -/
abbrev Read (α : Type) : Type := StateT Script.Source (Except (Nat × String)) α

namespace Read

/-- Refuse a script. -/
def refuse {α : Type} (why : String) : Read α := do throw ((← get).place, why)

/-- The next character, which stays. -/
def peek : Read (Option Char) := do pure (← get).rest.head?

/-- The next character. -/
def take : Read (Option Char) := do
  let s ← get
  match s.rest with
  | [] => pure none
  | c :: rest =>
    set (⟨rest, s.place + 1⟩ : Script.Source)
    pure (some c)

/-- The characters up to the first that fails a test. -/
def takeWhile (test : Char → Bool) : Read (List Char) := do
  let s ← get
  let cs := s.rest.takeWhile test
  set (⟨s.rest.drop cs.length, s.place + cs.length⟩ : Script.Source)
  pure cs

/-- Whether a character is a blank other than a break. -/
def isBlank (c : Char) : Bool := Number.isSpace c && c != '\n'

/-- Pass over blanks. -/
def skipBlanks : Read Unit := do
  let _ ← takeWhile isBlank

/-- A number. -/
def number : Read Nat := do
  pure (Number.digits 10 (← takeWhile Char.isDigit)).1

/-- The rest of the line. -/
def restOfLine : Read String := do
  let cs ← takeWhile (· != '\n')
  pure (String.ofList cs)

/-- The end of a step. -/
def endOfStep : Read Unit := do
  skipBlanks
  match ← peek with
  | none | some '\x7d' | some '#' => pure ()
  | some _ =>
    match ← take with
    | some ';' | some '\n' => pure ()
    | _ => refuse "extra characters after command"

/-! ## Texts between signs -/

/-- The characters up to a sign; a break may not stand among them but behind a backslash. -/
def upToOn (sign : Char) (isPattern : Bool) : Nat → List Char → Read (Option (List Char))
  | 0, _ => pure none
  | fuel + 1, got => do
    match ← peek with
    | none | some '\n' => pure none
    | some c =>
      let _ ← take
      if c = sign then pure (some got.reverse)
      else if c = '\\' then
        match ← take with
        | none => pure none
        | some d =>
          if d = 'n' && isPattern && sign != 'n' then upToOn sign isPattern fuel ('\n' :: got)
          else if d = '\n' && isPattern then upToOn sign isPattern fuel ('\n' :: got)
          else if d = sign && !(!isPattern && d = '&') then upToOn sign isPattern fuel (d :: got)
          else upToOn sign isPattern fuel (d :: '\\' :: got)
      else upToOn sign isPattern fuel (c :: got)

/-- The characters up to a sign. -/
def upTo (sign : Char) (isPattern : Bool) : Read (Option (List Char)) := do
  upToOn sign isPattern ((← get).rest.length + 1) []

/-- A character that is written behind a backslash. -/
def escaped? (c : Char) : Option Char :=
  [('a', '\x07'), ('f', '\x0c'), ('r', '\r'), ('t', '\t'), ('v', '\x0b')].lookup c

/-- A pattern with the characters that are written behind a backslash. -/
def settled : List Char → List Char
  | '\\' :: c :: rest =>
    match escaped? c with
    | some d => d :: settled rest
    | none => '\\' :: c :: settled rest
  | c :: rest => c :: settled rest
  | [] => []

/-- The expression that a text is; the empty text is none. -/
def expression (extended ignoresCase : Bool) (cs : List Char) : Read (Option Regex) :=
  if cs.isEmpty then pure none
  else match Regex.read ⟨extended, ignoresCase⟩ (settled cs) with
    | .ok r => pure (some r)
    | .error why => refuse why

/-! ## Addresses -/

/-- An address, if there is one. -/
def address? (extended : Bool) : Read (Option Address) := do
  let having (sign : Char) : Read (Option Address) := do
    match ← upTo sign true with
    | none => refuse "unterminated address regex"
    | some cs =>
      let flags ← takeWhile fun c => c = 'I' || c = 'M'
      let r ← expression extended (flags.contains 'I') cs
      pure (some (.having r))
  match ← peek with
  | some '$' =>
    let _ ← take
    pure (some .last)
  | some '/' =>
    let _ ← take
    having '/'
  | some '\\' =>
    let _ ← take
    match ← take with
    | some sign => having sign
    | none => refuse "unexpected `,'"
  | some c =>
    if c.isDigit then
      let n ← number
      if (← peek) = some '~' then
        let _ ← take
        pure (some (.every n (← number)))
      else pure (some (.line n))
    else pure none
  | none => pure none

/-- The end of a range. -/
def untilWhere (extended : Bool) : Read Until := do
  match ← peek with
  | some '+' =>
    let _ ← take
    pure (.more (← number))
  | some '~' =>
    let _ ← take
    pure (.multiple (← number))
  | _ =>
    match ← address? extended with
    | some a => pure (.address a)
    | none =>
      let _ ← take
      refuse "unexpected `,'"

/-- The lines that a step is for. -/
def selector (extended : Bool) : Read Selector := do
  match ← address? extended with
  | none => pure .all
  | some a =>
    skipBlanks
    if (← peek) = some ',' then
      let _ ← take
      skipBlanks
      let b ← untilWhere extended
      match a, b with
      | .line 0, .address (.having _) => pure (.fromStart b)
      | .line 0, _ => refuse "invalid usage of line address 0"
      | _, _ => pure (.range a b)
    else pure (.one a)

/-! ## Steps -/

/-- A text with what a backslash takes away. -/
def bare : List Char → List Char
  | '\\' :: c :: rest => c :: bare rest
  | ['\\'] => []
  | c :: rest => c :: bare rest
  | [] => []

/-- The characters up to a break that has no backslash before it. -/
def textOn : Nat → List Char → Read (List Char)
  | 0, got => pure got.reverse
  | fuel + 1, got => do
    match ← take with
    | none | some '\n' => pure got.reverse
    | some '\\' =>
      match ← take with
      | none => pure got.reverse
      | some c => textOn fuel (c :: got)
    | some c => textOn fuel (c :: got)

/-- A text to be written. -/
def text : Read (List Char) := do
  skipBlanks
  let fuel := (← get).rest.length + 1
  let ended (cs : List Char) : List Char := cs ++ ['\n']
  match ← peek with
  | none => refuse "expected \\ after `a', `c' or `i'"
  | some '\\' =>
    let _ ← take
    let before ← get
    skipBlanks
    match ← peek with
    | none => pure []
    | some '\n' =>
      let _ ← take
      pure (ended (← textOn fuel []))
    | some _ =>
      set before
      pure (ended (← textOn fuel []))
  | some _ => pure (ended (← textOn fuel []))

/-- The name of a label. -/
def labelName : Read String := do
  skipBlanks
  let cs ← takeWhile fun c => !Number.isSpace c && c != ';'
  pure (String.ofList cs)

/-- What is put in the place of a match. -/
def pieces : Nat → List Char → List Char → List Piece
  | 0, got, _ => [.text got.reverse]
  | _, got, [] => [.text got.reverse]
  | fuel + 1, got, '&' :: rest => .text got.reverse :: .group 0 :: pieces fuel [] rest
  | fuel + 1, got, '\\' :: c :: rest =>
    if c.isDigit then .text got.reverse :: .group (c.toNat - 48) :: pieces fuel [] rest
    else if "ULulE".toList.contains c then .text got.reverse :: .shape c :: pieces fuel [] rest
    else if c = 'n' then pieces fuel ('\n' :: got) rest
    else pieces fuel (((escaped? c).getD c) :: got) rest
  | fuel + 1, got, c :: rest => pieces fuel (c :: got) rest

/-- The number of groups in an expression. -/
def groupsIn : Regex → Nat
  | .seq a b | .either a b => max (groupsIn a) (groupsIn b)
  | .star a => groupsIn a
  | .group n a => max n (groupsIn a)
  | _ => 0

/-- The switches of a substitution. -/
def switches : Nat → Substitution → Bool → Bool → Read (Substitution × Bool)
  | 0, s, ignoresCase, _ => pure (s, ignoresCase)
  | fuel + 1, s, ignoresCase, numbered => do
    match ← peek with
    | none | some '\x7d' | some '#' => pure (s, ignoresCase)
    | some c =>
      if c.isDigit then
        let before ← get
        let n ← number
        if n = 0 then refuse "number option to `s' command may not be zero"
        else if numbered then
          set ({ before with place := before.place + 1 } : Script.Source)
          refuse "multiple number options to `s' command"
        else switches fuel { s with number := n } ignoresCase true
      else
        let _ ← take
        match c with
        | ';' | '\n' => pure (s, ignoresCase)
        | 'g' =>
          if s.everywhere then refuse "multiple `g' options to `s' command"
          else switches fuel { s with everywhere := true } ignoresCase numbered
        | 'p' =>
          if s.prints then refuse "multiple `p' options to `s' command"
          else switches fuel { s with prints := true } ignoresCase numbered
        | 'i' | 'I' => switches fuel s true numbered
        | 'm' | 'M' => switches fuel s ignoresCase numbered
        | 'w' =>
          skipBlanks
          let path ← restOfLine
          if path.isEmpty then refuse "missing filename in r/R/w/W commands"
          else pure ({ s with file := some path }, ignoresCase)
        | c =>
          if isBlank c then switches fuel s ignoresCase numbered
          else refuse "unknown option to `s'"

/-- A substitution. -/
def substitution (extended : Bool) : Read Action := do
  let fault := "unterminated `s' command"
  match ← take with
  | none | some '\n' | some '\\' => refuse fault
  | some sign =>
    match ← upTo sign true with
    | none => refuse fault
    | some pattern =>
      match ← upTo sign false with
      | none => refuse fault
      | some behind =>
        let parts := pieces (behind.length + 1) [] behind
        let fuel := (← get).rest.length + 1
        let (s, ignoresCase) ← switches fuel ⟨none, parts, 1, false, false, none⟩ false false
        let r ← expression extended ignoresCase pattern
        let most := (parts.map fun
          | .group n => n
          | _ => 0).foldl max 0
        match r with
        | some r =>
          if groupsIn r < most then
            refuse ("invalid reference \\" ++ toString most ++ " on `s' command's RHS")
        | none => pure ()
        pure (.substitute { s with pattern := r })

/-- Characters with what a backslash means before them. -/
def plainOnes : List Char → List Char
  | '\\' :: c :: rest =>
    (if c = 'n' then '\n' else if c = '\\' then '\\' else (escaped? c).getD c) :: plainOnes rest
  | c :: rest => c :: plainOnes rest
  | [] => []

/-- A translation. -/
def translation : Read Action := do
  let fault := "unterminated `y' command"
  match ← take with
  | none | some '\n' | some '\\' => refuse fault
  | some sign =>
    match ← upTo sign false with
    | none => refuse fault
    | some given =>
      match ← upTo sign false with
      | none => refuse fault
      | some wanted =>
        let given := plainOnes given
        let wanted := plainOnes wanted
        if given.length != wanted.length then
          refuse "strings for `y' command are different lengths"
        endOfStep
        pure (.translate (given.zip wanted))

/-- The name of a file. -/
def fileName : Read String := do
  skipBlanks
  let path ← restOfLine
  if path.isEmpty then refuse "missing filename in r/R/w/W commands"
  else pure path

/-- What a step does. -/
def action (extended : Bool) (isPlain : Bool) : Read (Option Action) := do
  let simple (a : Action) : Read (Option Action) := do
    endOfStep
    pure (some a)
  match ← take with
  | none => refuse "missing command"
  | some c =>
    match c with
    | '\x7b' => pure (some .open_)
    | '\x7d' =>
      if !isPlain then refuse "unexpected `,'"
      simple .close
    | '#' =>
      if !isPlain then refuse "comments don't accept any addresses"
      let _ ← restOfLine
      pure none
    | ':' =>
      if !isPlain then refuse ": doesn't want any addresses"
      let name ← labelName
      if name.isEmpty then refuse "\":\" lacks a label"
      endOfStep
      pure (some (.label name))
    | 'b' => simple (.branch .always (← labelName))
    | 't' => simple (.branch (.replaced true) (← labelName))
    | 'T' => simple (.branch (.replaced false) (← labelName))
    | 'a' => pure (some (.behind (← text)))
    | 'i' => pure (some (.before (← text)))
    | 'c' => pure (some (.change (← text)))
    | 'd' => simple .delete
    | 'D' => simple .deleteFirst
    | 'p' => simple .print
    | 'P' => simple .printFirst
    | '=' => simple .number
    | 'F' => simple .fileName
    | 'l' =>
      skipBlanks
      let _ ← number
      simple .show_
    | 'g' => simple .get_
    | 'G' => simple .getMore
    | 'h' => simple .hold
    | 'H' => simple .holdMore
    | 'x' => simple .exchange
    | 'z' => simple .empty
    | 'n' => simple .next
    | 'N' => simple .nextMore
    | 'q' | 'Q' =>
      skipBlanks
      let code ← number
      simple (.quit (c = 'Q') code)
    | 's' => do pure (some (← substitution extended))
    | 'y' => do pure (some (← translation))
    | 'r' => do pure (some (.read (← fileName)))
    | 'w' => do pure (some (.write (← fileName) false))
    | 'W' => do pure (some (.write (← fileName) true))
    | 'v' =>
      let _ ← labelName
      endOfStep
      pure none
    | c => refuse ("unknown command: `" ++ String.singleton c ++ "'")

/-- Steps up to the end. -/
def steps (extended : Bool) : Nat → Nat → List Step → Read (List Step)
  | 0, _, got => pure got.reverse
  | fuel + 1, depth, got => do
    let _ ← takeWhile fun c => Number.isSpace c || c = ';'
    match ← peek with
    | none =>
      if 0 < depth then throw (0, "unmatched `\x7b'") else pure got.reverse
    | some _ =>
      let sel ← selector extended
      skipBlanks
      let marks ← takeWhile fun c => c = '!' || isBlank c
      let isPlain := match sel with
        | .all => marks.isEmpty
        | _ => false
      match sel with
      | .one (.line 0) =>
        let _ ← take
        refuse "invalid usage of line address 0"
      | _ => pure ()
      match ← action extended isPlain with
      | none => steps extended fuel depth got
      | some a =>
        let step : Step := ⟨sel, marks.contains '!', a⟩
        match a with
        | .open_ => steps extended fuel (depth + 1) (step :: got)
        | .close =>
          if depth = 0 then refuse "unexpected `\x7d'"
          else steps extended fuel (depth - 1) (step :: got)
        | _ => steps extended fuel depth (step :: got)

end Read

/-- **Read a script.**  Its first line may say that lines are not shown of their own. -/
def Script.read (extended : Bool) (cs : List Char) : Except (Nat × String) Script := do
  let silent := match cs with
    | ['#', 'n'] | '#' :: 'n' :: '\n' :: _ => true
    | _ => false
  let (steps, _) ← (Read.steps extended (cs.length + 1) 0 []).run ⟨cs, 0⟩
  let script : Script := ⟨steps.toArray, silent⟩
  .ok script

end NestedSession.Rehearsal.Editing
