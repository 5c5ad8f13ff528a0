import NestedSession.Rehearsal.Program.Lines
import NestedSession.Rehearsal.Program.Running

/-!
# Rehearsal/Program/Many — a program is run for many words

    xargs

Words are read from the input and given to a program, some at a time.  Blanks separate them, and
quotes and backslashes keep blanks in them.
-/

namespace NestedSession.Rehearsal.Program

/-! ## Children -/

/-- **Run a program and wait for it**: its status, or why it could not be run. -/
def runChild (co : Company) (words : List String) (prepare : Work Unit) :
    Work (Except Errno Int32) := do
  let environment := (← get).call.environment
  let path := (environment.lookup "PATH").getD usualPath
  Work.flush
  match ← Work.view fun files cwd => find files cwd path words true with
  | .error e => pure (.error e)
  | .ok _ =>
    let d ← get
    let pid ← Work.ask (Play.fork (do
      let (_, d) ← (do
        prepare
        let _ ← turnInto co words environment).run d
      pure d.code))
    let ended ← Work.ask (Play.await fun self m => m.reap self (some pid))
    pure (.ok ((ended.map (·.2)).getD 0))

/-- Read nothing from the input. -/
def readNothing : Work Unit := Work.ask <| Play.change fun pid m =>
  let m := m.close pid 0
  (m.openFile pid (Latin.octets "/dev/null") .reading).2

/-! ## Words -/

/-- How words are read. -/
structure WordReading where
  /-- Each line is one word. -/
  byLine : Bool
  /-- What separates words that are taken as they are. -/
  separator : Option Char
  /-- The word that ends all. -/
  last : Option String

/-- Words that were read, each with whether a line ends behind it. -/
abbrev ReadWords := List (String × Bool)

/-- Read words with quotes; `got` is the word so far, the last character first. -/
def readWords (r : WordReading) : List Char → Option Char → Option (List Char) → ReadWords →
    Except String ReadWords
  | [], some q, _, _ =>
    .error ("unmatched " ++ (if q = '"' then "double" else "single") ++ " quote; by default quotes "
      ++ "are special to xargs unless you use the -0 option")
  | [], none, got, words =>
    .ok ((got.map fun cs => (String.ofList cs.reverse, true)).toList ++ words).reverse
  | c :: cs, some q, got, words =>
    if c = q then readWords r cs none got words
    else if c = '\n' then readWords r [] (some q) got words
    else readWords r cs (some q) (some (c :: got.getD [])) words
  | '\\' :: c :: cs, none, got, words => readWords r cs none (some (c :: got.getD [])) words
  | c :: cs, none, got, words =>
    let isBlank := c = ' ' || c = '\t'
    if c = '"' || c = '\'' then readWords r cs (some c) (some (got.getD [])) words
    else if c = '\n' || (isBlank && !r.byLine) then
      match got with
      | some word => readWords r cs none none ((String.ofList word.reverse, c = '\n') :: words)
      | none =>
        -- A break behind blanks still ends the line.
        let words := match words, c with
          | (w, _) :: rest, '\n' => (w, true) :: rest
          | words, _ => words
        readWords r cs none none words
    else if isBlank && got.isNone then readWords r cs none none words
    else readWords r cs none (some (c :: got.getD [])) words

/-- **The words of a text.** -/
def WordReading.words (r : WordReading) (t : String) : Except String ReadWords := do
  let all ← match r.separator with
    | some c =>
      let parts := (Lined.ofChars c t.toList).lines
      pure (parts.map fun cs => (String.ofList cs, true))
    | none => readWords r t.toList none none []
  match r.last with
  | some last => .ok (all.takeWhile fun (w, _) => w != last)
  | none => .ok all

/-- Words in groups of at most so many, and no longer than a line may be. -/
def groups (most room : Nat) : List String → List String → Nat → List (List String)
  | [], [], _ => []
  | [], group, _ => [group.reverse]
  | w :: rest, group, used =>
    if !group.isEmpty && (most ≤ group.length || room < used + w.length + 1) then
      group.reverse :: groups most room rest [w] (w.length + 1)
    else groups most room rest (w :: group) (used + w.length + 1)

/-- Words in groups of so many lines. -/
def lineGroups (most : Nat) : ReadWords → List String → Nat → List (List String)
  | [], [], _ => []
  | [], group, _ => [group.reverse]
  | (w, ends) :: rest, group, lines =>
    if ends && lines + 1 = most then (w :: group).reverse :: lineGroups most rest [] 0
    else lineGroups most rest (w :: group) (if ends then lines + 1 else lines)

/-- A text with each part that is another text replaced. -/
def replacedIn (old new t : String) : String :=
  if old.isEmpty then t else new.intercalate (t.splitOn old)

/-! ## Running -/

/-- Run a program for each group of words. -/
def runEach (co : Company) (shows : Bool) (prepare : Work Unit) : List (List String) → Work Unit
  | [] => pure ()
  | words :: rest => do
    let name := words.headD ""
    if shows then Work.say (" ".intercalate (words.map shown) ++ "\n")
    match ← runChild co words prepare with
    | .error e => Work.fail (name ++ ": " ++ e.text) (refusalCode e)
    | .ok status =>
      let code := codeOf status
      if signalOf status != 0 then
        Work.fail (name ++ ": terminated by signal " ++ toString (signalOf status)) 125
      else if code = 255 then Work.fail (name ++ ": exited with status 255; aborting") 124
      else
        if code != 0 then Work.blame 123
        runEach co shows prepare rest

/-- The character that a word means. -/
def separatorOf (word : String) : Char :=
  match word.toList with
  | '\\' :: rest => (Printing.escape ('\\' :: rest)).1
  | c :: _ => c
  | [] => '\x00'

/-- **Run a program with words that are read.** -/
def xargs (co : Company) : Work Unit := do
  let s ← Work.switches
    { plain := "0ortpx", valued := "adEILnPs", attached := "iel", inOrder := true
      long := [("null", '0', .nothing), ("arg-file", 'a', .value), ("delimiter", 'd', .value),
        ("eof", 'e', .maybe), ("replace", 'i', .maybe), ("max-lines", 'l', .maybe),
        ("max-args", 'n', .value), ("max-procs", 'P', .value), ("no-run-if-empty", 'r', .nothing),
        ("verbose", 't', .nothing), ("max-chars", 's', .value), ("exit", 'x', .nothing)] }
  let count (c : Char) : Work (Option Nat) := match s.get? c with
    | none => pure none
    | some word =>
      match Number.whole? (some 10) word.toList with
      | none =>
        Work.misuse ("invalid number \"" ++ word ++ "\" for -" ++ String.singleton c ++ " option")
      | some n =>
        if n < 1 then
          Work.misuse ("value " ++ word ++ " for -" ++ String.singleton c
            ++ " option should be >= 1")
        else pure (some n.toNat)
  let most ← count 'n'
  let lines ← if s.get? 'l' = some "" then pure (some 1) else do
    pure ((← count 'L') <|> (← count 'l'))
  let replaced := (s.get? 'I' <|> s.get? 'i').map fun w => if w.isEmpty then "\x7b\x7d" else w
  let r : WordReading :=
    { byLine := replaced.isSome
      separator := if s.has '0' then some '\x00' else (s.get? 'd').map separatorOf
      last := (s.get? 'E' <|> s.get? 'e').filter (!·.isEmpty) }
  let given ← match s.get? 'a' with
    | some path =>
      match ← Work.contentOf path with
      | .ok bs => pure (Latin.text bs)
      | .error t => Work.fail ("Cannot open input file " ++ quoted path ++ ": " ++ t.errno.text)
    | none => pure (Latin.text ((← Work.ask (Play.readAll 0)).toOption.getD []))
  let command := if s.words.isEmpty then ["echo"] else s.words
  let prepare := if s.has 'a' || s.has 'o' then pure () else readNothing
  match r.words given with
  | .error why => Work.fail why
  | .ok words =>
    let room := 131072 - Number.total (command.map fun w => w.length + 1)
    let calls := match replaced, lines with
      | some old, _ => words.map fun (w, _) => command.map (replacedIn old w)
      | none, some n => (lineGroups n words [] 0).map (command ++ ·)
      | none, none => (groups (most.getD room) room (words.map (·.1)) [] 0).map (command ++ ·)
    let calls := if calls.isEmpty && replaced.isNone && !s.has 'r' then [command] else calls
    runEach co (s.has 't') prepare calls

end NestedSession.Rehearsal.Program
