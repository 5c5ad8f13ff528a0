import NestedSession.Rehearsal.Program.Reader
import NestedSession.Rehearsal.Program.Regex.Reading
import NestedSession.Rehearsal.Program.Trees.Basic

/-!
# Rehearsal/Program/Search — programs that look for lines

    grep egrep fgrep

A line is selected if some pattern matches in it, or if none does.  What is near a selected line may
be shown with it.  The code tells whether any line was selected, or that something could not be
read.
-/

namespace NestedSession.Rehearsal.Program

/-- What is looked for, and what is shown of it. -/
structure Search where
  pattern : Regex
  inverted : Bool
  /-- Only what matches is shown. -/
  onlyMatch : Bool
  counts : Bool
  /-- Names are shown of files with a selected line, or of those without. -/
  names : Option Bool
  quiet : Bool
  silent : Bool
  numbers : Bool
  offsets : Bool
  /-- Whether the name of the file comes before each line. -/
  named : Bool
  textual : Bool
  limit : Option Nat
  before : Nat
  after : Nat
  /-- What a file without a name is called. -/
  label : String
  /-- What ends names, and lines. -/
  nameEnd : String
  lineEnd : Char

/-- How far a file has been searched. -/
structure Progress where
  line : Nat
  offset : Nat
  selected : Nat
  /-- Lines that are shown if one behind them is selected, the latest first. -/
  waiting : List (Nat × Nat × List Char)
  /-- How many more lines are shown. -/
  trailing : Nat
  /-- The last line that was shown. -/
  last : Option Nat
  /-- Whether anything was shown of any file. -/
  shown : Bool
  binary : Bool

namespace Search

/-- Whether a line is selected. -/
def selects (s : Search) (text : List Char) : Bool :=
  s.pattern.occurs text.toArray != s.inverted

/-- The parts of a line that match, each with its place. -/
def matchesOn (r : Regex) (t : Array Char) : Nat → Nat → List (Nat × List Char)
  | 0, _ => []
  | fuel + 1, i =>
    match r.find t i with
    | none => []
    | some found =>
      if found.stop = found.start then
        if t.size ≤ found.stop then [] else matchesOn r t fuel (found.stop + 1)
      else (found.start, found.group t 0) :: matchesOn r t fuel found.stop

/-- Write one line with what comes before it. -/
def showLine (s : Search) (name : String) (sign : String) (line offset : Nat)
    (text : List Char) : Work Unit :=
  Work.print ((if s.named then name ++ sign else "")
    ++ (if s.numbers then toString line ++ sign else "")
    ++ (if s.offsets then toString offset ++ sign else "")
    ++ String.ofList (text ++ [s.lineEnd]))

/-- Show a selected line, and the lines before it that wait. -/
def showSelected (s : Search) (name : String) (p : Progress) (text : List Char) :
    Work Progress := do
  if s.onlyMatch then
    if !s.inverted then
      (matchesOn s.pattern text.toArray (text.length + 2) 0).forM fun (i, part) =>
        s.showLine name ":" p.line (p.offset + i) part
    pure p
  else
    let waiting := p.waiting.reverse
    let first := (waiting.head?.map (·.1)).getD p.line
    let isApart := p.last.all fun n => n + 1 < first
    if (0 < s.before || 0 < s.after) && p.shown && isApart then Work.print "--\n"
    waiting.forM fun (n, offset, text) => s.showLine name "-" n offset text
    s.showLine name ":" p.line p.offset text
    pure { p with waiting := [], last := some p.line, trailing := s.after, shown := true }

/-- Search one line. -/
def searchLine (s : Search) (name : String) (p : Progress) (text : List Char) :
    Work Progress := do
  let isOver := s.limit.any (· ≤ p.selected)
  let silent := s.counts || s.names.isSome || s.quiet || p.binary
  if !isOver && s.selects text then
    let p := { p with selected := p.selected + 1 }
    if silent then pure p else s.showSelected name p text
  else if silent || s.onlyMatch then pure p
  else if 0 < p.trailing then
    s.showLine name "-" p.line p.offset text
    pure { p with trailing := p.trailing - 1, last := some p.line }
  else pure { p with waiting := (p.line, p.offset, text) :: p.waiting.take (s.before - 1) }

/-- Whether nothing that comes can change what is said of a file. -/
def isDecided (s : Search) (p : Progress) : Bool :=
  let isOver := s.limit.any (· ≤ p.selected)
  (0 < p.selected && (s.quiet || s.names.isSome || (p.binary && !s.counts)))
    || (isOver && (p.trailing = 0 || s.counts))

/-- Search a file line by line. -/
def searchOn (s : Search) (name : String) : Nat → Reader → Progress → Work (Except Errno Progress)
  | 0, _, p => pure (.ok p)
  | fuel + 1, r, p => do
    if s.isDecided p then pure (.ok p)
    else
      let (got, r) ← r.next
      match got with
      | .error e => pure (.error e)
      | .ok none => pure (.ok p)
      | .ok (some line) =>
        let binary := p.binary || (!s.textual && r.hasZero)
        let p := { p with binary := binary && s.lineEnd = '\n', line := p.line + 1 }
        let p ← s.searchLine name p line.text
        searchOn s name fuel r { p with
          waiting := if s.before = 0 then [] else p.waiting
          offset := p.offset + line.text.length + 1 }

/-- What is said of a file when it has been searched. -/
def conclude (s : Search) (name : String) (p : Progress) : Work Unit := do
  if s.quiet then pure ()
  else
    if s.counts then
      Work.print ((if s.named then name ++ ":" else "") ++ toString p.selected ++ "\n")
    match s.names with
    | some wanted => if (0 < p.selected) == wanted then Work.print (name ++ s.nameEnd)
    | none =>
      if p.binary && 0 < p.selected && !s.counts then
        Work.say ("grep: " ++ name ++ ": binary file matches\n")

/-- **Search a file**: whether a line was selected, and whether it could not be read. -/
def searchFile (s : Search) (shown : Bool) (path : String) : Work (Bool × Bool × Bool) := do
  let name := if path = "-" then s.label else path
  let refuse (e : Errno) : Work (Bool × Bool × Bool) := do
    if !s.silent then Work.say ((← Work.name) ++ ": " ++ name ++ ": " ++ e.text ++ "\n")
    pure (false, true, shown)
  match ← Work.readerOf path s.lineEnd with
  | .error e => refuse e
  | .ok r =>
    let searched ← s.searchOn name Play.rounds r ⟨0, 0, 0, [], 0, none, shown, false⟩
    if path != "-" then Work.close r.fd
    match searched with
    | .error e => refuse e
    | .ok p =>
      s.conclude name p
      pure (0 < p.selected, false, p.shown)

/-- Search files one after the other. -/
def searchAll (s : Search) : Bool → Bool → Bool → List String → Work Unit
  | found, failed, _, [] =>
    if failed && !(found && s.quiet) then Work.blame 2
    else if !found then Work.blame 1 else pure ()
  | found, failed, shown, path :: rest => do
    let (here, refused, shown) ← s.searchFile shown path
    if here && s.quiet then Work.leave 0
    s.searchAll (found || here) (failed || refused) shown rest

end Search

/-! ## Patterns -/

/-- A pattern that has to match whole words, or whole lines. -/
def bounded (words lines : Bool) (r : Regex) : Regex :=
  if lines then .seq Regex.atStart (.seq r Regex.atEnd)
  else if words then
    .seq (.place fun a _ => !a.any Regex.isWordPart)
      (.seq r (.place fun _ b => !b.any Regex.isWordPart))
  else r

/-- Patterns of which one has to match; none matches if there are none. -/
def anyOf : List Regex → Regex
  | [] => .one fun _ => false
  | [r] => r
  | r :: rest => .either r (anyOf rest)

/-- A text as a pattern. -/
def literal (m : Regex.Manner) (cs : List Char) : Regex :=
  cs.foldr (fun c r => .seq (Regex.exactly m c) r) .empty

/-- Say how the program is used, and end. -/
def refuseSearch {α : Type} (why : Option String) : Work α := do
  match why with
  | some why => Work.say ("grep: " ++ why ++ "\n")
  | none => pure ()
  Work.say "Usage: grep [OPTION]... PATTERNS [FILE]...\n"
  Work.referToHelp 2

/-- The switches of a search. -/
def searchSwitches : Work.Switches :=
  { plain := "EFGHIPTUVLZabchilnoqRrsuvwxyz0123456789", valued := "ABCDdefmX"
    long := [("extended-regexp", 'E', .nothing), ("fixed-strings", 'F', .nothing),
      ("basic-regexp", 'G', .nothing), ("perl-regexp", 'P', .nothing), ("regexp", 'e', .value),
      ("file", 'f', .value), ("ignore-case", 'i', .nothing), ("no-ignore-case", 'j', .nothing),
      ("word-regexp", 'w', .nothing), ("line-regexp", 'x', .nothing), ("null-data", 'z', .nothing),
      ("no-messages", 's', .nothing), ("invert-match", 'v', .nothing),
      ("max-count", 'm', .value), ("byte-offset", 'b', .nothing),
      ("line-number", 'n', .nothing), ("line-buffered", 'u', .nothing),
      ("with-filename", 'H', .nothing), ("no-filename", 'h', .nothing), ("label", 'k', .value),
      ("only-matching", 'o', .nothing), ("quiet", 'q', .nothing), ("silent", 'q', .nothing),
      ("text", 'a', .nothing), ("recursive", 'r', .nothing),
      ("dereference-recursive", 'R', .nothing), ("include", 'p', .value),
      ("exclude", 'g', .value), ("exclude-dir", 't', .value),
      ("files-without-match", 'L', .nothing), ("files-with-matches", 'l', .nothing),
      ("count", 'c', .nothing), ("null", 'Z', .nothing), ("before-context", 'B', .value),
      ("after-context", 'A', .value), ("context", 'C', .value), ("color", 'K', .maybe),
      ("colour", 'K', .maybe), ("binary-files", 'X', .value), ("directories", 'd', .value)] }

/-- The lines of patterns. -/
def patternLines (t : String) : List (List Char) :=
  t.toList.splitOn '\n'

/-- Whether a name is wanted. -/
def isWanted (s : Work.Switched) (path : String) : Bool :=
  let fits (form : String) : Bool := (Pattern.ofText form).fits (lastPart path).toList
  let all (c : Char) : List String := s.1.filterMap fun (d, v) => if d = c then some v else none
  let included := all 'p'
  (included.isEmpty || included.any fits) && !(all 'g').any fits

/-- **Look for lines.** -/
def grep (extended fixed : Bool) : Work Unit := do
  Work.dread 2
  let given ← match searchSwitches.read (← get).call.arguments with
    | .ok given => pure given
    | .error why => refuseSearch (some why)
  let s := given
  let texts ← s.1.filterMapM fun (c, v) => do
    if c = 'e' then pure (some (patternLines v))
    else if c = 'f' then
      match ← Work.contentOf v with
      | .ok bs => pure (some (linesOf '\n' (Latin.text bs)))
      | .error t => Work.fail (v ++ ": " ++ t.errno.text) 2
    else pure none
  let hasPatterns := s.has 'e' || s.has 'f'
  let (texts, paths) ← match hasPatterns, s.words with
    | true, words => pure (texts.flatten, words)
    | false, word :: rest => pure (patternLines word, rest)
    | false, [] => refuseSearch none
  let kind := s.last? "EFGP"
  let extended := kind.elim extended fun c => c = 'E' || c = 'P'
  let fixed := kind.elim fixed (· = 'F')
  let m : Regex.Manner := ⟨extended, s.has 'i' || s.has 'y'⟩
  let patterns ← texts.mapM fun cs =>
    if fixed then pure (literal m cs)
    else match Regex.read m cs with
      | .ok r => pure r
      | .error why => Work.fail why 2
  let context (c : Char) : Work (Option Nat) := match s.get? c with
    | none => pure none
    | some word =>
      match count? word with
      | some n => pure (some n)
      | none => Work.fail (word ++ ": invalid context length argument") 2
  let digits := String.ofList ((s.1.map (·.1)).filter Char.isDigit)
  let around := (← context 'C') <|> digits.toNat?
  let limit ← match s.get? 'm' with
    | none => pure none
    | some word =>
      match Number.whole? (some 10) word.toList with
      | some n => pure (if n < 0 then none else some n.toNat)
      | none => Work.fail "invalid max count" 2
  let recursive := s.has 'r' || s.has 'R' || s.get? 'd' = some "recurse"
  let paths ← if !recursive then
      if s.get? 'd' = some "skip" then
        paths.filterM fun path => do
          pure (!((← Work.find path true).toOption).any (·.isDirectory))
      else pure (Work.sources paths)
    else
      let roots := if paths.isEmpty then ["."] else paths
      let all ← roots.mapM fun path => do
        match ← Work.find path true with
        | .ok f =>
          if f.isDirectory then
            let below ← Work.view fun files _ => f.all files
            let plain := below.filter fun f =>
              !f.isDirectory && (s.has 'R' || !f.node.isLink) && isWanted s f.path
            pure (plain.map fun f =>
              if paths.isEmpty then String.ofList (f.path.toList.drop 2) else f.path)
          else pure [path]
        | .error _ => pure [path]
      pure all.flatten
  let search : Search :=
    { pattern := bounded (s.has 'w') (s.has 'x') (anyOf patterns)
      inverted := s.has 'v', onlyMatch := s.has 'o', counts := s.has 'c'
      names := (s.last? "lL").map (· = 'l'), quiet := s.has 'q', silent := s.has 's'
      numbers := s.has 'n', offsets := s.has 'b'
      named := match s.last? "hH" with
        | some c => c = 'H'
        | none => 1 < paths.length || recursive
      textual := s.has 'a' || s.get? 'X' = some "text", limit
      before := ((← context 'B') <|> around).getD 0
      after := ((← context 'A') <|> around).getD 0
      label := (s.get? 'k').getD "(standard input)"
      nameEnd := if s.has 'Z' then "\x00" else "\n"
      lineEnd := if s.has 'z' then '\x00' else '\n' }
  if limit = some 0 then Work.blame 1
  else search.searchAll false false false paths

end NestedSession.Rehearsal.Program
