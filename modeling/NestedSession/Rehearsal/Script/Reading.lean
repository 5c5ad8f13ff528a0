import NestedSession.Rehearsal.Script.Words

/-!
# Rehearsal/Script/Reading — how a script is read

    list     ← chain ((";" | "&" | newline) chain)*
    chain    ← pipe (("&&" | "||") pipe)*
    pipe     ← "!"? command ("|" command)*
    command  ← (compound redirect*) | simple | definition

A script is read command by command, since what was run before may change what its words mean.
Keywords and aliases are looked for where a command may begin.
-/

namespace NestedSession.Rehearsal.Script

/-- The words that are tokens of their own where a command may begin. -/
def keywords : List String :=
  ["!", "case", "do", "done", "elif", "else", "esac", "fi", "for", "if", "in", "then", "until",
    "while", "\x7b", "\x7d"]

/-! ## Tokens -/

/-- Give up over the last token. -/
def unexpected {α : Type} : Read α := do
  Read.fail ((← get).token.name ++ " unexpected")

/-- Give up over the last token where another one is wanted. -/
def expecting {α : Type} (t : Token) : Read α := do
  Read.fail ((← get).token.name ++ " unexpected (expecting " ++ t.name ++ ")")

/-- Set the last token. -/
def setToken (t : Token) : Read Token := do
  modify fun r => { r with token := t }
  pure t

/-- The redirection that begins with a sign. -/
def readRedirect (fd : Option Nat) (c : Char) : Read Unit := do
  let keep (r : Redirect) : Read Unit := modify fun reader => { reader with redirect := r }
  if c = '>' then
    let fd := fd.getD 1
    match ← Read.joined with
    | some '>' => keep (.file fd .append [])
    | some '|' => keep (.file fd .overwrite [])
    | some '&' => keep (.copyNamed fd [])
    | c =>
      Read.back c
      keep (.file fd .write [])
  else
    let fd := fd.getD 0
    match ← Read.joined with
    | some '<' =>
      match ← Read.joined with
      | some '-' => keep (.document fd 1 false)
      | c =>
        Read.back c
        keep (.document fd 0 false)
    | some '&' => keep (.copyNamed fd [])
    | some '>' => keep (.file fd .update [])
    | c =>
      Read.back c
      keep (.file fd .read [])

/-- The descriptor that stands before a redirection: nothing, or one digit. -/
def descriptorBefore? (d : Draft) : Option (Option Nat) :=
  match d.isQuoted, d.parts with
  | false, [] => some none
  | false, [.plain c] => if c.isDigit then some (some (c.toNat - 48)) else none
  | _, _ => none

/-- Read a word, or a redirection, that begins with a character. -/
def readWord (within : Within) (c : Option Char) : Read Token := do
  let (d, c) ← wordOn within none rounds c (.start .bare)
  if d.level.manner = .sum then Read.fail "Missing '))'"
  else if d.level.manner != .bare then Read.fail "Unterminated quoted string"
  else if d.level.braces != 0 then Read.fail "Missing '\x7d'"
  else
    match c, descriptorBefore? d with
    | some '<', some fd =>
      readRedirect fd '<'
      setToken .redirect
    | some '>', some fd =>
      readRedirect fd '>'
      setToken .redirect
    | c, _ =>
      Read.back c
      modify fun r => { r with word := d.parts.reverse, isQuoted := d.isQuoted }
      setToken .word

/-- Pass over the rest of a line. -/
def skipLine : Nat → Read Unit
  | 0 => pure ()
  | fuel + 1 => do
    match ← Read.next with
    | none => pure ()
    | some '\n' => Read.back (some '\n')
    | some _ => skipLine fuel

/-- A sign that may be doubled. -/
def signOf (c : Char) : Read Token := do
  match ← Read.joined with
  | some x =>
    if x = c then setToken (.sign (String.ofList [c, c]))
    else
      Read.back (some x)
      setToken (.sign (String.ofList [c]))
  | none => setToken (.sign (String.ofList [c]))

/-- The next token, whatever it may be. -/
def rawToken (within : Within) : Nat → Read Token
  | 0 => setToken .endOfFile
  | fuel + 1 => do
    match ← Read.joined with
    | none => setToken .endOfFile
    | some c =>
      if c = ' ' || c = '\t' then rawToken within fuel
      else if c = '#' then
        skipLine rounds
        rawToken within fuel
      else if c = '\n' then
        Read.countLine
        setToken .newline
      else if c = '&' || c = '|' || c = ';' then signOf c
      else if c = '(' || c = ')' then setToken (.sign (String.ofList [c]))
      else readWord within (some c)

/-- The next token, or the last one again. -/
def anyToken (within : Within) : Read Token := do
  let r ← get
  if r.again then
    set { r with again := false }
    pure r.token
  else rawToken within rounds

/-- Read a document. -/
def readDocument (within : Within) (doc : Awaited) : Read Unit := do
  let c ← if doc.isExact then Read.next else Read.joined
  let start := Draft.start (if doc.isExact then .single else .double)
  let d ← match ← takesEnding doc c with
    | none => pure start
    | some c => do
      let (d, _) ← wordOn within (some doc) rounds c start
      pure d
  if d.level.manner = .sum then Read.fail "Missing '))'"
  else if d.level.braces != 0 then Read.fail "Missing '\x7d'"
  else modify fun r => { r with documents := r.documents.set! doc.number d.parts.reverse }

/-- Read the documents that begin behind this line. -/
def readDocuments (within : Within) : Read Unit := do
  let awaited := (← get).awaited
  modify fun r => { r with awaited := [] }
  awaited.forM (readDocument within)

/-- The next token that is no break; documents begin behind breaks. -/
def tokenAfterBreaks (within : Within) : Nat → Token → Read Token
  | fuel + 1, .newline => do
    readDocuments within
    Read.look {}
    tokenAfterBreaks within fuel (← anyToken within)
  | _, t => pure t

/-- **The next token**, with keywords and aliases where they are looked for. -/
def tokenFrom (within : Within) (looks : Looks) : Nat → Read Token
  | 0 => setToken .endOfFile
  | fuel + 1 => do
    let t ← anyToken within
    let t ← if looks.breaks then tokenAfterBreaks within rounds t else pure t
    let r ← get
    let looks := { looks with
      keyword := looks.keyword || r.looks.keyword
      replaced := looks.replaced || r.looks.replaced }
    Read.look {}
    if t != .word || r.isQuoted then pure t
    else match Word.plainText? r.word with
      | none => pure t
      | some cs =>
        let text := String.ofList cs
        if looks.keyword && keywords.contains text then setToken (.sign text)
        else if looks.replaced && !r.within.any (·.1 == text) then
          match r.aliases.lookup text with
          | some value =>
            modify fun r =>
              if value.isEmpty then r
              else { r with rest := value.toList, within := (text, r.rest) :: r.within }
            tokenFrom within looks fuel
          | none => pure t
        else pure t

/-- The next token. -/
def readToken (within : Within) : Read Token := do
  let looks := (← get).looks
  tokenFrom within looks rounds

/-- The next token, which must be a certain one. -/
def wantToken (within : Within) (t : Token) : Read Unit := do
  if (← readToken within) != t then expecting t

/-! ## Commands -/

/-- The looks where a command may begin. -/
def atCommand : Looks := { keyword := true, replaced := true }

/-- The looks where a command may begin after breaks. -/
def afterBreaks : Looks := { keyword := true, replaced := true, breaks := true }

/-- The name of a redirection. -/
def readTarget (within : Within) : Read Redirect := do
  let redirect := (← get).redirect
  match redirect with
  | .document .. => Read.look { ending := true }
  | _ => pure ()
  if (← readToken within) != .word then unexpected
  else
    let r ← get
    match redirect with
    | .document fd strips _ =>
      let number := r.documents.size
      let doc : Awaited := ⟨number, Word.characters r.word, r.isQuoted, strips = 1⟩
      set { r with documents := r.documents.push [], awaited := r.awaited ++ [doc] }
      pure (.document fd number r.isQuoted)
    | .copyNamed fd _ =>
      match Word.plainText? r.word with
      | some ['-'] => pure (.copy fd none)
      | some [c] =>
        if c.isDigit then pure (.copy fd (some (c.toNat - 48))) else pure (.copyNamed fd r.word)
      | _ => pure (.copyNamed fd r.word)
    | .file fd way _ => pure (.file fd way r.word)
    | other => pure other

/-- The redirections behind a command. -/
def redirectsAfter (within : Within) : Nat → List Redirect → Read (List Redirect)
  | 0, got => pure got.reverse
  | fuel + 1, got => do
    if (← readToken within) = .redirect then
      redirectsAfter within fuel ((← readTarget within) :: got)
    else
      Read.again
      pure got.reverse

/-- How a list of commands is read. -/
inductive Extent where
  /-- Up to the end of a line. -/
  | line
  /-- Up to what ends it; there must be a command. -/
  | some_
  /-- Up to what ends it. -/
  | any
  deriving DecidableEq, Repr

/-- The readers of what commands consist of. -/
structure Grammar where
  within : Within
  list : Extent → Read Command

namespace Grammar

/-- A token. -/
def token (g : Grammar) : Read Token := readToken g.within

/-- The items of a loop. -/
def items (g : Grammar) : Nat → List Word → Read (List Word)
  | 0, got => pure got.reverse
  | fuel + 1, got => do
    if (← g.token) = .word then g.items fuel ((← get).word :: got)
    else pure got.reverse

/-- What comes after `if`: a test and what depends on it. -/
def branches (g : Grammar) : Nat → Read Command
  | 0 => unexpected
  | fuel + 1 => do
    let test ← g.list .some_
    wantToken g.within (.sign "then")
    let yes ← g.list .some_
    let no ← match ← g.token with
      | .sign "elif" => g.branches fuel
      | .sign "else" => g.list .some_
      | _ => do
        Read.again
        pure .nothing
    pure (.branch test yes no)

/-- A loop with a test. -/
def testLoop (g : Grammar) (wanted : Bool) : Read Command := do
  let test ← g.list .some_
  wantToken g.within (.sign "do")
  pure (.loop wanted test (← g.list .some_))

/-- A loop over items. -/
def itemLoop (g : Grammar) (line : Nat) : Read Command := do
  let t ← g.token
  let r ← get
  let name := (Word.plainText? r.word).getD []
  if t != .word || r.isQuoted || !Word.isName name then Read.fail "Bad for loop variable"
  else
    Read.look afterBreaks
    let items ← match ← g.token with
      | .sign "in" => do
        let items ← g.items rounds []
        let t := (← get).token
        if t != .newline && t != .sign ";" then unexpected else pure items
      | .sign ";" => pure [[.mark, .value "@" .plain false [], .mark]]
      | _ => do
        Read.again
        pure [[.mark, .value "@" .plain false [], .mark]]
    Read.look afterBreaks
    wantToken g.within (.sign "do")
    pure (.each line (String.ofList name) items (← g.list .some_))

/-- The patterns of a case. -/
def patterns (g : Grammar) : Nat → List Word → Read (List Word)
  | 0, got => pure got.reverse
  | fuel + 1, got => do
    let got := (← get).word :: got
    if (← g.token) = .sign "|" then
      let _ ← g.token
      g.patterns fuel got
    else pure got.reverse

/-- The cases of a choice, up to its end. -/
def cases (g : Grammar) : Nat → List (List Word × Command) → Read (List (List Word × Command))
  | 0, got => pure got.reverse
  | fuel + 1, got => do
    Read.look { keyword := true, breaks := true }
    if (← g.token) = .sign "esac" then pure got.reverse
    else
      if (← get).token = .sign "(" then
        let _ ← g.token
      let patterns ← g.patterns rounds []
      if (← get).token != .sign ")" then expecting (.sign ")")
      else
        let body ← g.list .any
        Read.look { keyword := true, breaks := true }
        match ← g.token with
        | .sign "esac" => pure ((patterns, body) :: got).reverse
        | .sign ";;" => g.cases fuel ((patterns, body) :: got)
        | _ => expecting (.sign ";;")

/-- A choice between cases. -/
def choice (g : Grammar) (line : Nat) : Read Command := do
  if (← g.token) != .word then expecting .word
  else
    let word := (← get).word
    Read.look afterBreaks
    wantToken g.within (.sign "in")
    pure (.choice line word (← g.cases rounds []))

/-- The body of a function. -/
def definition (g : Grammar) (command : Read Command) (name : Word) : Read Command := do
  wantToken g.within (.sign ")")
  let cs := (Word.plainText? name).getD []
  if !Word.isName cs || specialNames.contains (String.ofList cs) then
    Read.fail "Bad function name"
  else
    Read.look afterBreaks
    let line := (← get).line
    pure (.define line (String.ofList cs) (← command))

/-- The parts of a simple command so far, the last first. -/
structure Simple where
  settings : List Word
  words : List Word
  redirects : List Redirect

/-- A simple command, or the definition of a function. -/
def simple (g : Grammar) (command : Read Command) (line : Nat) : Nat → Bool → Simple → Read Command
  | 0, _, _ => unexpected
  | fuel + 1, replaced, s => do
    Read.look { replaced }
    let finish : Read Command := do
      Read.again
      pure (.simple line s.settings.reverse s.words.reverse s.redirects.reverse)
    match ← g.token with
    | .word =>
      let word := (← get).word
      if replaced && word.isSetting then
        g.simple command line fuel true { s with settings := word :: s.settings }
      else g.simple command line fuel false { s with words := word :: s.words }
    | .redirect =>
      let r ← readTarget g.within
      g.simple command line fuel replaced { s with redirects := r :: s.redirects }
    | .sign "(" =>
      match s with
      | ⟨[], [name], []⟩ => g.definition command name
      | _ => finish
    | _ => finish

/-- A compound command without what is behind it, and the sign that ends it. -/
def compound? (g : Grammar) (line : Nat) (t : Token) : Option (Read (Command × Option String)) :=
  let ended (body : Read Command) (sign : String) : Option (Read (Command × Option String)) :=
    some (body.map fun c => (c, some sign))
  match t with
  | .sign "if" => ended (g.branches rounds) "fi"
  | .sign "while" => ended (g.testLoop true) "done"
  | .sign "until" => ended (g.testLoop false) "done"
  | .sign "for" => ended (g.itemLoop line) "done"
  | .sign "(" =>
    ended ((g.list .some_).map fun body => .apart line body [] false) ")"
  | .sign "\x7b" => ended (g.list .some_) "\x7d"
  | .sign "case" => some ((g.choice line).map fun c => (c, none))
  | _ => none

/-- A command; the bound is on how deep functions are defined within one another. -/
def command (g : Grammar) : Nat → Read Command
  | 0 => unexpected
  | fuel + 1 => do
    let line := (← get).line
    let t ← g.token
    match g.compound? line t with
    | some body =>
      let (c, ending) ← body
      match ending with
      | some sign => wantToken g.within (.sign sign)
      | none => pure ()
      Read.look atCommand
      let redirects ← redirectsAfter g.within rounds []
      if redirects.isEmpty then pure c
      else match c with
        | .apart line body _ behind => pure (.apart line body redirects behind)
        | c => pure (.redirected line c redirects)
    | none =>
      if t = .word || t = .redirect then
        Read.again
        g.simple (g.command fuel) line rounds true ⟨[], [], []⟩
      else unexpected

/-- The parts of a pipe behind the first. -/
def pipeParts (g : Grammar) : Nat → List Command → Read (List Command)
  | 0, got => pure got.reverse
  | fuel + 1, got => do
    if (← g.token) = .sign "|" then
      Read.look afterBreaks
      g.pipeParts fuel ((← g.command rounds) :: got)
    else
      Read.again
      pure got.reverse

/-- A pipe. -/
def pipe (g : Grammar) : Read Command := do
  let negated ← match ← g.token with
    | .sign "!" => do
      Read.look atCommand
      pure true
    | _ => do
      Read.again
      pure false
  let first ← g.command rounds
  let parts ← g.pipeParts rounds [first]
  let c := match parts with
    | [c] => c
    | parts => .pipe parts false
  pure (if negated then .negated c else c)

/-- Pipes that depend on one another. -/
def chainOn (g : Grammar) : Nat → Command → Read Command
  | 0, c => pure c
  | fuel + 1, c => do
    match ← g.token with
    | .sign "&&" =>
      Read.look afterBreaks
      g.chainOn fuel (.chain true c (← g.pipe))
    | .sign "||" =>
      Read.look afterBreaks
      g.chainOn fuel (.chain false c (← g.pipe))
    | _ =>
      Read.again
      pure c

/-- A command that is not waited for. -/
def behind : Command → Command
  | .pipe parts _ => .pipe parts true
  | .redirected line body redirects => .apart line body redirects true
  | c => .apart 0 c [] true

/-- One command after another. -/
def after : Option Command → Command → Command
  | none, c => c
  | some first, c => .sequence first c

/-- What a list of commands is read to, with what was read before. -/
def listOn (g : Grammar) (extent : Extent) : Nat → Bool → Option Command → Read (Option Command)
  | 0, _, got => pure got
  | fuel + 1, mayEnd, got => do
    let isLine := extent = .line
    Read.look { keyword := true, replaced := true, breaks := !isLine }
    let finish : Read (Option Command) := do
      readDocuments g.within
      Read.again
      let _ ← setToken .endOfFile
      pure got
    match ← g.token with
    | .newline =>
      readDocuments g.within
      pure (some (got.getD .nothing))
    | .endOfFile => if isLine then finish else do
        let _ ← finish
        pure (some (got.getD .nothing))
    | t =>
      Read.again
      if mayEnd && t.endsList then pure (some (got.getD .nothing))
      else
        let c ← g.chainOn rounds (← g.pipe)
        match ← g.token with
        | .sign "&" => g.listOn extent fuel (!isLine) (some (after got (behind c)))
        | .sign ";" => g.listOn extent fuel (!isLine) (some (after got c))
        | .newline =>
          Read.again
          g.listOn extent fuel (!isLine) (some (after got c))
        | .endOfFile =>
          readDocuments g.within
          Read.again
          pure (some (after got c))
        | _ =>
          if isLine then unexpected
          else
            Read.again
            pure (some (after got c))

end Grammar

/-- A list of commands; the bound is on how deep commands stand within one another. -/
def readList : Nat → Extent → Read (Option Command)
  | 0, _ => unexpected
  | fuel + 1, extent => do
    let list (e : Extent) : Read Command := (readList fuel e).map fun c => c.getD .nothing
    let alone : Read Command := list .any
    let grammarOf (within : Within) : Grammar := ⟨within, list⟩
    -- A word is read to its end before the token behind a list in parentheses is looked at.
    let plain : Within := ⟨alone, alone⟩
    let within : Within := ⟨do
      let c ← alone
      wantToken plain (.sign ")")
      pure c, alone⟩
    (grammarOf within).listOn extent rounds (extent = .any) none

/-- **The next command of a script**, up to the end of its line; there is none at the end of the
script. -/
def nextCommand (r : Reader) : Except SyntaxFault (Option Command × Reader) :=
  (readList rounds .line).run { r with again := false, looks := {}, awaited := [] }

/-- **The word that a text is within double quotes.** -/
def quotedWord (text : String) : Except SyntaxFault Word := do
  let alone : Read Command := (readList rounds .any).map fun c => c.getD .nothing
  -- No line of the text is a break, so that nothing but its end ends it.
  let doc : Awaited := ⟨0, ['\n'], false, false⟩
  let (_, r) ← (readDocument ⟨alone, alone⟩ doc).run (.ofText text.toList 1 #[[]] [])
  .ok (r.documents.getD 0 [])

end NestedSession.Rehearsal.Script
