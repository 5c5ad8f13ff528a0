import NestedSession.Rehearsal.Script.Input

/-!
# Rehearsal/Script/Words — the words of a script

A word is read character by character, in a manner that depends on what it stands in: outside of
quotes, within double or single ones, or in an expression.  Braces and expressions nest, and each
level has a manner of its own (`Level`).
-/

namespace NestedSession.Rehearsal.Script

/-- How characters are read. -/
inductive Manner where
  | bare
  | double
  | single
  | sum
  deriving DecidableEq, Repr

/-- What a character does. -/
inductive Doing where
  | newline
  | plain
  /-- It would be special elsewhere. -/
  | exact
  | escape
  | openSingle
  | openDouble
  | closeQuote
  | value
  | closeBrace
  | openParen
  | closeParen
  | command
  | ending
  deriving DecidableEq, Repr

/-- What a character does where it is read. -/
def Manner.doing (manner : Manner) (c : Char) : Doing :=
  if c = '\n' then .newline
  else match manner with
    | .single =>
      if c = '\'' then .closeQuote
      else if "!*?[=~:/-]\\".toList.contains c then .exact else .plain
    | _ =>
      if c = '\\' then .escape
      else if c = '`' then .command
      else if c = '$' then .value
      else if c = '\x7d' then .closeBrace
      else match manner with
        | .bare =>
          if c = '\'' then .openSingle
          else if c = '"' then .openDouble
          else if "<>();&| \t".toList.contains c then .ending else .plain
        | .double =>
          if c = '"' then .closeQuote
          else if "!*?[=~:/-]".toList.contains c then .exact else .plain
        | _ => if c = '(' then .openParen else if c = ')' then .closeParen else .plain

/-- A level of nesting. -/
structure Level where
  manner : Manner
  innerQuote : Bool := false
  /-- Whether the level was begun by a brace. -/
  ofBrace : Bool := false
  isDouble : Bool := false
  /-- The braces that are open. -/
  braces : Nat := 0
  /-- Those of them within double quotes. -/
  doubleBraces : Nat := 0
  parens : Nat := 0

/-- What a part under way will be. -/
inductive Opening where
  | value (name : String) (rule : Rule) (orEmpty : Bool)
  | sum

/-- A word under way. -/
structure Draft where
  level : Level
  outer : List Level
  /-- The parts so far, the last first. -/
  parts : List Part
  /-- The parts under way, each with those before it. -/
  opened : List (Opening × List Part)
  isQuoted : Bool

namespace Draft

/-- Add a part. -/
def add (d : Draft) (p : Part) : Draft := { d with parts := p :: d.parts }

/-- Begin a part that has parts of its own. -/
def open_ (d : Draft) (o : Opening) : Draft :=
  { d with parts := [], opened := (o, d.parts) :: d.opened }

/-- End such a part. -/
def close (d : Draft) : Draft :=
  match d.opened with
  | [] => d
  | (o, before) :: opened =>
    let inner := d.parts.reverse
    let part : Part := match o with
      | .value name rule orEmpty => .value name rule orEmpty inner
      | .sum => .sum inner
    { d with parts := part :: before, opened }

/-- Enter a level. -/
def push (d : Draft) (level : Level) : Draft :=
  { d with level, outer := d.level :: d.outer }

/-- Leave a level. -/
def pop (d : Draft) : Draft :=
  match d.outer with
  | [] => d
  | level :: outer => { d with level, outer }

/-- Change the level. -/
def alter (d : Draft) (f : Level → Level) : Draft := { d with level := f d.level }

end Draft

/-- Names that are not spelt like names. -/
def isSpecialName (c : Char) : Bool := "*@#?-$!0123456789".toList.contains c

/-- How commands are read within a word. -/
structure Within where
  /-- Up to a closing parenthesis. -/
  inParens : Read Command
  /-- As a script of its own. -/
  alone : Read Command

/-- Read a name on. -/
def nameOn (isPart : Char → Bool) : Nat → List Char → Option Char →
    Read (List Char × Option Char)
  | 0, got, c => pure (got.reverse, c)
  | fuel + 1, got, c => do
    match c with
    | some x =>
      if isPart x then
        let c ← Read.joined
        nameOn isPart fuel (x :: got) c
      else pure (got.reverse, c)
    | none => pure (got.reverse, none)

/-- The value whose name begins here: its name, whether it asks for a length, whether it can be
read at all, and the character behind it. -/
structure Named where
  name : List Char
  isLength : Bool
  isSound : Bool
  behind : Option Char

/-- Read the name of a value; `braced` if a brace is open, `length` after its length sign. -/
def readName (braced : Bool) (c : Option Char) (length : Bool) : Read Named := do
  match c with
  | none => pure ⟨[], length, false, c⟩
  | some x =>
    if Word.beginsName x then
      let (name, c) ← nameOn Word.isInName rounds [] c
      pure ⟨name, length, true, c⟩
    else if x.isDigit then
      let (name, c) ← nameOn Char.isDigit (if braced then rounds else 1) [] c
      pure ⟨name, length, true, c⟩
    else if x = '\x7d' then pure ⟨[], length, false, c⟩
    else
      let c ← Read.joined
      pure ⟨[x], length, isSpecialName x, c⟩

/-- Read the name of a value in braces, which may ask for its length. -/
def readBraced (c : Option Char) : Read Named := do
  match c with
  | some '#' =>
    let c ← Read.joined
    match c with
    | some x =>
      if x = '_' || x.isAlphanum then readName true (some x) true
      else
        let behind ← Read.joined
        if x = '\x7d' || behind != some '\x7d' then
          Read.back behind
          pure ⟨['#'], false, true, some x⟩
        else pure ⟨[x], true, isSpecialName x, behind⟩
    | none => pure ⟨['#'], false, true, none⟩
  | c => readName true c false

/-- The rule that a character asks for. -/
def ruleOf? (c : Option Char) : Option Rule :=
  match c with
  | some '\x7d' => some .plain
  | some '-' => some .orWord
  | some '+' => some .thenWord
  | some '?' => some .demand
  | some '=' => some .assign
  | _ => none

/-- Read what is done with a value in braces: the rule, and whether an empty value counts as
none. -/
def readRule (n : Named) : Read (Rule × Bool) := do
  if !n.isSound || n.isLength then
    Read.back n.behind
    let isWhole := n.isSound && n.behind = some '\x7d'
    pure (if isWhole then .length else .bad, false)
  else match n.behind with
    | some ':' =>
      match ruleOf? (← Read.joined) with
      | some rule => pure (rule, true)
      | none => pure (.bad, true)
    | some '%' =>
      match ← Read.joined with
      | some '%' => pure (.cutRight true, false)
      | c =>
        Read.back c
        pure (.cutRight false, false)
    | some '#' =>
      match ← Read.joined with
      | some '#' => pure (.cutLeft true, false)
      | c =>
        Read.back c
        pure (.cutLeft false, false)
    | c =>
      match ruleOf? c with
      | some rule => pure (rule, false)
      | none => pure (.bad, false)

/-- Begin a value with a rule. -/
def Draft.openValue (d : Draft) (name : List Char) (rule : Rule) (orEmpty : Bool) : Draft :=
  let name := String.ofList name
  if rule = .plain && !orEmpty then d.add (.value name .plain false [])
  else
    let isCut := match rule with
      | .cutLeft _ | .cutRight _ => true
      | _ => false
    let manner := if isCut then .bare
      else if d.level.manner = .sum then .double else d.level.manner
    let d := if manner != d.level.manner || d.level.innerQuote then
        d.push { manner, ofBrace := true, isDouble := manner != .bare }
      else d
    let d := d.alter fun l => { l with
      braces := l.braces + 1
      doubleBraces := if l.isDouble then l.doubleBraces + 1 else l.doubleBraces }
    d.open_ (.value name rule orEmpty)

/-- Read the command in parentheses.  The documents of what is around it come later. -/
def readCommand (within : Within) : Read Part := do
  let awaited := (← get).awaited
  modify fun r => { r with awaited := [] }
  let body ← within.inParens
  modify fun r => { r with awaited }
  pure (.output body)

/-- Read a value, a command or an expression behind its sign. -/
def readValue (within : Within) (d : Draft) : Read Draft := do
  let c ← Read.joined
  let isBare := match c with
    | some x => !(x = '(' || x = '\x7b' || Word.beginsName x || isSpecialName x)
    | none => true
  if (← get).looks.ending || isBare then
    Read.back c
    pure (d.add (.plain '$'))
  else if c = some '(' then
    match ← Read.joined with
    | some '(' =>
      pure ((d.push { manner := .sum, isDouble := true }).open_ .sum)
    | c =>
      Read.back c
      pure (d.add (← readCommand within))
  else if c = some '\x7b' then
    let n ← readBraced (← Read.joined)
    let (rule, orEmpty) ← readRule n
    pure (d.openValue n.name rule orEmpty)
  else
    let n ← readName false c false
    Read.back n.behind
    pure (d.add (.value (String.ofList n.name) .plain false []))

/-- The text of a command between backquotes, in which a backslash keeps some characters. -/
def quotedCommand (isDouble : Bool) : Nat → List Char → Read (List Char)
  | 0, got => pure got.reverse
  | fuel + 1, got => do
    match ← Read.joined with
    | some '`' => pure got.reverse
    | some '\\' =>
      match ← Read.next with
      | some c =>
        let isKept := c = '\\' || c = '`' || c = '$' || (isDouble && c = '"')
        quotedCommand isDouble fuel (if isKept then c :: got else c :: '\\' :: got)
      | none => quotedCommand isDouble fuel ('\\' :: got)
    | some '\n' =>
      Read.countLine
      quotedCommand isDouble fuel ('\n' :: got)
    | some c => quotedCommand isDouble fuel (c :: got)
    | none => Read.fail "EOF in backquote substitution"

/-- Read a command between backquotes: its text is read as a script of its own. -/
def readQuotedCommand (within : Within) (d : Draft) : Read Draft := do
  let text ← quotedCommand d.level.isDouble rounds []
  let outer ← get
  set (Reader.ofText text 1 outer.documents outer.aliases)
  let body ← within.alone
  let inner ← get
  set { outer with documents := inner.documents }
  pure (d.add (.output body))

/-- What a backslash does with the character behind it. -/
def Draft.escape (d : Draft) (isDocument : Bool) (c : Char) : Draft :=
  let level := d.level
  let isKept := level.isDouble && c != '\\' && c != '`' && c != '$'
    && (c != '"' || (isDocument && level.braces = 0)) && (c != '\x7d' || level.braces = 0)
  let d := if isKept then d.add (.exact '\\') else d
  { d.add (.exact c) with isQuoted := true }

/-- Mark quotes, unless it is in a document. -/
def Draft.markQuote (d : Draft) (isDocument : Bool) : Draft :=
  if isDocument then d else d.add .mark

/-- Mark double quotes. -/
def Draft.markDouble (d : Draft) (isDocument : Bool) : Draft :=
  let d := if 0 < d.level.braces then
      d.alter fun l => { l with innerQuote := !l.innerQuote }
    else d
  d.markQuote isDocument

/-- What a closing quote does. -/
def Draft.closeQuote (d : Draft) (isDocument : Bool) (c : Char) : Draft :=
  if isDocument && d.level.braces = 0 then d.add (.plain c)
  else
    let d := if d.level.doubleBraces = 0 then
        d.alter fun l => { l with manner := .bare, isDouble := false }
      else d
    let d := { d with isQuoted := true }
    if c = '"' then d.markDouble isDocument else d.markQuote isDocument

/-- What a closing brace does. -/
def Draft.closeBrace (d : Draft) : Draft :=
  let level := d.level
  if !level.innerQuote && 0 < level.braces then
    let d := d.alter fun l => { l with braces := l.braces - 1 }
    let d := if d.level.braces = 0 && level.ofBrace then d.pop
      else if 0 < level.doubleBraces then
        d.alter fun l => { l with doubleBraces := l.doubleBraces - 1 }
      else d
    d.close
  else d.add (.plain '\x7d')

/-- What a closing parenthesis of an expression does. -/
def Draft.closeParen (d : Draft) : Read Draft := do
  if 0 < d.level.parens then
    pure ((d.add (.plain ')')).alter fun l => { l with parens := l.parens - 1 })
  else
    match ← Read.joined with
    | some ')' => pure d.pop.close
    | c =>
      Read.back c
      pure (d.add (.plain ')'))

/-- Whether the next line ends a document; if it does it is taken. -/
def takesEnding (doc : Awaited) (c : Option Char) : Read (Option (Option Char)) := do
  let r ← get
  let line := match c with
    | some c => c :: r.rest
    | none => r.rest
  let line := if doc.strips then line.dropWhile (· == '\t') else line
  let behind := line.drop doc.ending.length
  if doc.ending.isPrefixOf line && (behind.isEmpty || behind.head? = some '\n') then
    set { r with rest := behind.drop 1 }
    Read.countLine
    pure none
  else
    set { r with rest := line.drop 1 }
    pure (some line.head?)

/-- **Read a word on**, or a document, from a character; the character behind it comes with it. -/
def wordOn (within : Within) (doc : Option Awaited) : Nat → Option Char → Draft →
    Read (Draft × Option Char)
  | 0, c, d => pure (d, c)
  | fuel + 1, c, d => do
    let isDocument := doc.isSome
    let further (d : Draft) : Read (Draft × Option Char) := do
      let c ← if d.level.manner = .single then Read.next else Read.joined
      wordOn within doc fuel c d
    match c with
    | none => pure (d, none)
    | some x =>
      match d.level.manner.doing x with
      | .newline =>
        if d.level.manner = .bare && d.level.braces = 0 then pure (d, c)
        else
          Read.countLine
          let d := d.add (.plain '\n')
          let c ← Read.next
          match doc with
          | none => wordOn within doc fuel c d
          | some awaited =>
            match ← takesEnding awaited c with
            | some c => wordOn within doc fuel c d
            | none => pure (d, none)
      | .plain => further (d.add (.plain x))
      | .exact =>
        further (d.add (if !isDocument || d.level.isDouble then .exact x else .plain x))
      | .escape =>
        match ← Read.next with
        | none => further (d.add (.exact '\\'))
        | some x => further (d.escape isDocument x)
      | .openSingle =>
        further ((d.alter fun l => { l with manner := .single }).markQuote isDocument)
      | .openDouble =>
        further <| (d.alter fun l =>
          { l with manner := .double, isDouble := true }).markDouble isDocument
      | .closeQuote => further (d.closeQuote isDocument x)
      | .value => further (← readValue within d)
      | .closeBrace => further d.closeBrace
      | .openParen =>
        further ((d.add (.plain x)).alter fun l => { l with parens := l.parens + 1 })
      | .closeParen => further (← d.closeParen)
      | .command =>
        if (← get).looks.ending then further (d.add (.plain '`'))
        else further (← readQuotedCommand within d)
      | .ending =>
        if d.level.braces = 0 then pure (d, c) else further (d.add (.plain x))

/-- A word that begins. -/
def Draft.start (manner : Manner) : Draft :=
  { level := { manner, isDouble := manner = .double }, outer := [], parts := [], opened := []
    isQuoted := false }

end NestedSession.Rehearsal.Script
