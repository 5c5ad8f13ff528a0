import NestedSession.Rehearsal.Program.Editing.Reading
import NestedSession.Rehearsal.Program.Reader
import NestedSession.Rehearsal.Program.Trees.Basic

/-!
# Rehearsal/Program/Editing/Playing — a script goes through the lines of files

    sed

The files are one row of lines, unless each is edited in its place.  A line is shown when the script
is over, with what was to come behind it; the end of the last line is kept as it was.
-/

namespace NestedSession.Rehearsal.Editing

/-- How lines are read and shown. -/
structure Habit where
  silent : Bool
  /-- Each file has a first and a last line of its own. -/
  separate : Bool
  /-- Files get what is written, and what they held is kept under another name. -/
  inPlace : Option String
  ending : Char

/-- What comes behind a line. -/
inductive Later where
  | text (cs : List Char)
  | file (path : String)

/-- What an editor has before it. -/
structure Bench where
  /-- The file that is read. -/
  reader : Option Reader
  path : String
  waiting : List String
  line : Nat
  space : List Char
  /-- Whether the line was ended. -/
  ended : Bool
  held : List Char
  /-- Whether the line that is held was ended. -/
  heldEnded : Bool
  replaced : Bool
  /-- The ranges that have begun, each by its step, with the line that ends it. -/
  ranges : List (Nat × Option Nat)
  /-- The steps whose range from the beginning is over. -/
  spent : List Nat
  later : List Later
  /-- Whether what was written last lacks its end. -/
  lacksEnd : Bool
  /-- The expression that was used last. -/
  used : Option Regex
  /-- The files that are written to, with their descriptors. -/
  targets : List (String × Nat)
  /-- What is written into the place of the file, the latest first. -/
  edited : List (List Char)

/-- A step of editing. -/
abbrev Edit (α : Type) : Type := StateT Bench Work α

/-- What comes after a step. -/
inductive After where
  /-- The step with a number. -/
  | step (i : Nat)
  /-- The script is over. -/
  | finished
  /-- The script begins anew, with another line or with the one that is there. -/
  | anew (reads : Bool)
  | quit (shows : Bool) (code : Nat)

namespace Edit

/-- Let the program do something. -/
def ask {α : Type} (work : Work α) : Edit α := StateT.lift work

/-! ## Writing -/

/-- Write characters. -/
def emit (h : Habit) (cs : List Char) : Edit Unit :=
  if h.inPlace.isSome then modify fun b => { b with edited := cs :: b.edited }
  else ask (Work.print (String.ofList cs))

/-- Write a text that may lack its end; what was written before gets its own. -/
def put (h : Habit) (cs : List Char) (ended : Bool) : Edit Unit := do
  if (← get).lacksEnd then emit h [h.ending]
  emit h (if ended then cs ++ [h.ending] else cs)
  modify fun b => { b with lacksEnd := !ended }

/-- Write a text that has its end. -/
def putText (h : Habit) (cs : List Char) : Edit Unit := do
  if (← get).lacksEnd then emit h [h.ending]
  emit h cs
  modify fun b => { b with lacksEnd := false }

/-- Write a line to a file. -/
def putTo (h : Habit) (path : String) (cs : List Char) : Edit Unit := do
  if path = "/dev/stdout" then put h cs true
  else
    let b ← get
    let fd := if path = "/dev/stderr" then 2 else (b.targets.lookup path).getD 2
    let _ ← ask (Work.ask (Play.write fd (Latin.spell (cs ++ [h.ending]))))

/-- Write what comes behind the line. -/
def putLater (h : Habit) : Edit Unit := do
  let later := (← get).later.reverse
  modify fun b => { b with later := [] }
  later.forM fun
    | .text cs => putText h cs
    | .file path => do
      match ← ask (Work.contentOf (if path = "/dev/stdin" then "-" else path)) with
      | .ok [] => pure ()
      | .ok bs => putText h (Latin.characters bs)
      | .error _ => pure ()

/-! ## Reading -/

/-- Put what was edited into the place of the file. -/
def settle (h : Habit) : Edit Unit := do
  let b ← get
  match h.inPlace with
  | none => pure ()
  | some ending =>
    let name := b.path
    let content := Latin.spell b.edited.reverse.flatten
    let spare := if ending.toList.contains '*' then ending.replace "*" name else name ++ ending
    let _ ← ask <| Work.change fun files cwd mask => do
      let p := Latin.octets name
      let node ← files.find cwd p
      let old ← files.read cwd p
      let files ← if ending.isEmpty then .ok files else do
        let (files, n) ← files.reach cwd (Latin.octets spare) mask
        .ok ((files.setContent n (.plain old)).setMode n node.mode)
      let place ← files.place? cwd p
      let fresh := files.put place (.plain content) node.mode
      .ok ((), fresh)
    set { b with edited := [], lacksEnd := false }

/-- Open the next file that can be read. -/
def openNext (h : Habit) : Nat → Edit Bool
  | 0 => pure false
  | fuel + 1 => do
    let b ← get
    match b.waiting with
    | [] => pure false
    | path :: rest =>
      set { b with waiting := rest }
      let found ← ask (Work.find path true)
      let isPlain := match found.toOption.map (·.node.content) with
        | some (.plain _) | none => true
        | _ => false
      if h.inPlace.isSome && !isPlain then
        ask (Work.say ("sed: couldn't edit " ++ path ++ ": not a regular file\n"))
        ask (Work.blame 4)
        openNext h fuel
      else
        match ← ask (Work.readerOf path h.ending) with
        | .ok r =>
          modify fun b => { b with
            reader := some r, path
            line := if h.separate then 0 else b.line
            ranges := if h.separate then [] else b.ranges }
          pure true
        | .error e =>
          ask (Work.say ("sed: can't read " ++ path ++ ": " ++ e.text ++ "\n"))
          ask (Work.blame 2)
          openNext h fuel

/-- Close the file that is read. -/
def closeFile (h : Habit) : Edit Unit := do
  match (← get).reader with
  | none => pure ()
  | some r =>
    settle h
    if r.fd != 0 then ask (Work.close r.fd)
    modify fun b => { b with reader := none }

/-- The next line of the files. -/
def fetchOn (h : Habit) : Nat → Edit (Option Line)
  | 0 => pure none
  | fuel + 1 => do
    match (← get).reader with
    | none =>
      if ← openNext h ((← get).waiting.length + 1) then fetchOn h fuel else pure none
    | some r =>
      let (got, r) ← ask r.next
      modify fun b => { b with reader := some r }
      match got with
      | .ok (some line) => pure (some line)
      | .ok none =>
        closeFile h
        fetchOn h fuel
      | .error e =>
        let name := (← get).path
        ask (Work.say ("sed: read error on " ++ (if name = "-" then "stdin" else name) ++ ": "
          ++ e.text ++ "\n"))
        ask (Work.leave 4)

/-- The next line of the files. -/
def fetch (h : Habit) : Edit (Option Line) := do
  fetchOn h (2 * (← get).waiting.length + 3)

/-- Give back a line. -/
def giveBack (line : Line) : Edit Unit := modify fun b =>
  { b with reader := b.reader.map fun r =>
      { r with held := line.text ++ (if line.ended then [r.ending] else []) ++ r.held } }

/-- Whether the file that is read has no more lines. -/
def isDrained : Edit Bool := do
  match (← get).reader with
  | none => pure true
  | some r =>
    let (got, r) ← ask r.next
    modify fun b => { b with reader := some r }
    match got with
    | .ok (some line) =>
      giveBack line
      pure false
    | _ => pure true

/-- Whether the files that wait have lines. -/
def nothingWaits (h : Habit) : Edit Bool := do
  if (← get).waiting.isEmpty then pure true
  else
    match ← fetch h with
    | none => pure true
    | some line =>
      giveBack line
      pure false

/-- **Whether the line is the last one.** -/
def isLast (h : Habit) : Edit Bool := do
  if !(← isDrained) then pure false
  else if h.separate then pure true
  else nothingWaits h

/-- Whether there are no more lines at all. -/
def isEnd (h : Habit) : Edit Bool := do
  if !(← isDrained) then pure false
  else if h.separate && h.inPlace.isNone then pure (← get).waiting.isEmpty
  else if h.inPlace.isSome then pure (← get).waiting.isEmpty
  else nothingWaits h

/-- **Go on to the next line**, which may be added to the one that is there. -/
def advance (h : Habit) (adds : Bool) : Edit Bool := do
  putLater h
  match ← fetch h with
  | none => pure false
  | some line =>
    modify fun b => { b with
      line := b.line + 1
      space := if adds then b.space ++ h.ending :: line.text else line.text
      ended := line.ended
      replaced := if adds then b.replaced else false }
    pure true

/-! ## Addresses -/

/-- The expression that is meant. -/
def meant (r : Option Regex) : Edit Regex := do
  match r <|> (← get).used with
  | some r =>
    modify fun b => { b with used := some r }
    pure r
  | none => ask do
    Work.say "sed: -e expression #1, char 0: no previous regular expression\n"
    Work.leave 1

/-- Whether the line is one that an address chooses. -/
def isAt (h : Habit) (a : Address) : Edit Bool := do
  let b ← get
  match a with
  | .line n => pure (b.line = n)
  | .every first step =>
    pure (if step = 0 then b.line = first else first ≤ b.line && (b.line - first) % step = 0)
  | .last => isLast h
  | .having r => do
    let r ← meant r
    pure (r.occurs b.space.toArray)

/-- Whether a range that has begun goes on, and whether it ends here. -/
def goesOn (h : Habit) (i : Nat) (b : Until) (limit : Option Nat) : Edit Bool := do
  let finish : Edit Unit := modify fun b => { b with ranges := b.ranges.filter (·.1 != i) }
  match limit with
  | some n =>
    let line := (← get).line
    if n ≤ line then finish
    pure (line ≤ n)
  | none =>
    match b with
    | .address a =>
      if ← isAt h a then finish
      pure true
    | _ => pure true

/-- **Whether a step is for the line.** -/
def isFor (h : Habit) (i : Nat) (s : Selector) : Edit Bool := do
  let here ← get
  match s with
  | .all => pure true
  | .one a => isAt h a
  | .fromStart b =>
    if here.spent.contains i then pure false
    else
      let going ← goesOn h i b none
      let still := (← get).ranges.any (·.1 == i)
      if here.ranges.any (·.1 == i) && !still then
        modify fun b => { b with spent := i :: b.spent }
      pure going
  | .range a b =>
    match here.ranges.lookup i with
    | some limit => goesOn h i b limit
    | none =>
      if !(← isAt h a) then pure false
      else
        let line := here.line
        let limit : Option Nat := match b with
          | .address (.line n) => some n
          | .more n => some (line + n)
          | .multiple n => some (if n = 0 then line else (line + n - 1) / n * n)
          | _ => none
        if !(limit.any (· ≤ line)) then
          modify fun b => { b with ranges := (i, limit) :: b.ranges }
        pure true

/-! ## Substitutions -/

/-- In which letters what follows is written. -/
structure Shape where
  /-- All of it. -/
  all : Option Char
  /-- The next character. -/
  once : Option Char

/-- Characters in the letters of a shape. -/
def shaped : Shape → List Char → List Char × Shape
  | s, [] => ([], s)
  | s, c :: cs =>
    let c := match s.once <|> s.all with
      | some 'u' | some 'U' => c.toUpper
      | some _ => c.toLower
      | none => c
    let (rest, s) := shaped { s with once := none } cs
    (c :: rest, s)

/-- What is put in the place of a match. -/
def written (t : Array Char) (found : Regex.Found) : Shape → List Piece → List Char
  | _, [] => []
  | s, .text cs :: rest =>
    let (cs, s) := shaped s cs
    cs ++ written t found s rest
  | s, .group n :: rest =>
    let (cs, s) := shaped s (found.group t n)
    cs ++ written t found s rest
  | s, .shape c :: rest =>
    written t found (if c = 'E' then ⟨none, none⟩
      else if c = 'U' || c = 'L' then ⟨some c, s.once⟩ else { s with once := some c }) rest

/-- Replace matches from a place on: what is written, and whether something was replaced.  An empty
match right behind another one does not count. -/
def replaceOn (s : Substitution) (r : Regex) (t : Array Char) :
    Nat → Nat → Nat → Option Nat → List (List Char) → Bool → List Char × Bool
  | 0, i, _, _, got, did => ((got.reverse.flatten) ++ (t.extract i t.size).toList, did)
  | fuel + 1, i, count, before, got, did =>
    let done := (got.reverse.flatten ++ (t.extract i t.size).toList, did)
    if t.size < i then (got.reverse.flatten, did)
    else match r.find t i with
      | none => done
      | some found =>
        let ahead := (t.extract i found.start).toList
        let isEmpty := found.start = found.stop
        let step := (t.extract found.stop (found.stop + 1)).toList
        if isEmpty && before = some found.start then
          replaceOn s r t fuel (found.stop + 1) count none (step :: ahead :: got) did
        else
          let counts := s.number ≤ count + 1
          let new := if counts then written t found ⟨none, none⟩ s.pieces
            else (t.extract found.start found.stop).toList
          if counts && !s.everywhere then
            ((new :: ahead :: got).reverse.flatten ++ (t.extract found.stop t.size).toList, true)
          else if isEmpty then
            replaceOn s r t fuel (found.stop + 1) (count + 1) none (step :: new :: ahead :: got)
              (did || counts)
          else
            replaceOn s r t fuel found.stop (count + 1) (some found.stop) (new :: ahead :: got)
              (did || counts)

/-- **Replace matches in the line.** -/
def substitute (h : Habit) (s : Substitution) : Edit Unit := do
  let r ← meant s.pattern
  let t := (← get).space.toArray
  let (space, did) := replaceOn s r t (t.size + 2) 0 0 none [] false
  if did then
    modify fun b => { b with space, replaced := true }
    if s.prints then put h space (← get).ended
    match s.file with
    | some path => putTo h path space
    | none => pure ()

/-! ## Lines that can be read by anyone -/

/-- A character that anyone can read. -/
def readable (c : Char) : List Char :=
  match [('\\', "\\\\"), ('\x07', "\\a"), ('\x08', "\\b"), ('\x0c', "\\f"), ('\n', "\\n"),
    ('\r', "\\r"), ('\t', "\\t"), ('\x0b', "\\v")].lookup c with
  | some t => t.toList
  | none =>
    if 32 ≤ c.toNat && c.toNat < 127 then [c]
    else
      let ds := Nat.toDigits 8 c.toNat
      '\\' :: List.replicate (3 - ds.length) '0' ++ ds

/-- Characters in lines that are not too long. -/
def folded (limit : Nat) : Nat → List (List Char) → List Char
  | _, [] => []
  | width, cs :: rest =>
    if limit < width + cs.length && 0 < width then
      ['\\', '\n'] ++ cs ++ folded limit cs.length rest
    else cs ++ folded limit (width + cs.length) rest

/-! ## Steps -/

/-- The first line of a text. -/
def firstLine (ending : Char) (cs : List Char) : List Char := cs.takeWhile (· != ending)

/-- Where a branch leads. -/
def aim (s : Script) (label : String) : After :=
  if label.isEmpty then .finished else ((s.labelled? label).map After.step).getD .finished

/-- Do what a step does, and say what comes after it. -/
def act (h : Habit) (s : Script) (i : Nat) (step : Step) : Edit After := do
  let b ← get
  let onward : After := .step (i + 1)
  let change (f : Bench → Bench) : Edit After := do
    modify f
    pure onward
  match step.action with
  | .open_ | .close | .label _ => pure onward
  | .branch .always label => pure (aim s label)
  | .branch (.replaced wanted) label =>
    modify fun b => { b with replaced := false }
    pure (if b.replaced == wanted then aim s label else onward)
  | .before text =>
    putText h text
    pure onward
  | .behind text => change fun b => { b with later := .text text :: b.later }
  | .change text =>
    if step.negated || !b.ranges.any (·.1 == i) then putText h text
    pure (.anew true)
  | .delete => pure (.anew true)
  | .deleteFirst =>
    if b.space.contains h.ending then
      let line := firstLine h.ending b.space
      modify fun b => { b with space := b.space.drop (line.length + 1) }
      pure (.anew false)
    else pure (.anew true)
  | .print =>
    put h b.space b.ended
    pure onward
  | .printFirst =>
    put h (firstLine h.ending b.space) true
    pure onward
  | .number =>
    putText h (toString b.line ++ "\n").toList
    pure onward
  | .fileName =>
    putText h (b.path ++ "\n").toList
    pure onward
  | .show_ =>
    putText h (folded 69 0 (b.space.map readable) ++ ['$', '\n'])
    pure onward
  | .get_ => change fun b => { b with space := b.held, ended := b.heldEnded }
  | .getMore => change fun b =>
    { b with space := b.space ++ h.ending :: b.held, ended := b.ended || b.heldEnded }
  | .hold => change fun b => { b with held := b.space, heldEnded := b.ended }
  | .holdMore => change fun b =>
    { b with held := b.held ++ h.ending :: b.space, heldEnded := b.ended || b.heldEnded }
  | .exchange => change fun b =>
    { b with space := b.held, ended := b.heldEnded, held := b.space, heldEnded := b.ended }
  | .empty => change fun b => { b with space := [] }
  | .next =>
    if ← isEnd h then pure (.quit true 0)
    else
      if !h.silent then put h b.space b.ended
      if ← advance h false then pure onward else pure (.quit false 0)
  | .nextMore =>
    if ← isEnd h then pure (.quit true 0)
    else if ← advance h true then pure onward else pure (.quit true 0)
  | .quit silent code => pure (.quit (!silent) code)
  | .substitute sub =>
    substitute h sub
    pure onward
  | .translate pairs =>
    change fun b => { b with space := b.space.map fun c => (pairs.lookup c).getD c }
  | .read path => change fun b => { b with later := .file path :: b.later }
  | .write path first =>
    putTo h path (if first then firstLine h.ending b.space else b.space)
    pure onward

/-- Go through the script from a step on. -/
def playFrom (h : Habit) (s : Script) : Nat → Nat → Edit After
  | 0, _ => pure .finished
  | fuel + 1, i => do
    match s.steps[i]? with
    | none => pure .finished
    | some step =>
      let chosen ← isFor h i step.selector
      if chosen == step.negated then
        match step.action with
        | .open_ => playFrom h s fuel (s.closeOf i)
        | _ => playFrom h s fuel (i + 1)
      else
        match ← act h s i step with
        | .step next => playFrom h s fuel next
        | after => pure after

/-- The last of what is written. -/
def finish (h : Habit) (shows : Bool) (code : Nat) : Edit Nat := do
  let b ← get
  if shows && !h.silent then put h b.space b.ended
  putLater h
  -- What was not gone through stays in a file that is edited in its place.
  if h.inPlace.isSome then
    let rest := ((← get).reader.map (·.held)).getD []
    emit h rest
    closeFile h
  pure code

/-- **Go through all lines.** -/
def playLines (h : Habit) (s : Script) : Nat → Bool → Edit Nat
  | 0, _ => pure 0
  | fuel + 1, reads => do
    let there ← if reads then advance h false else pure true
    if !there then pure 0
    else
      match ← playFrom h s Play.rounds 0 with
      | .quit shows code => finish h shows code
      | .anew reads =>
        putLater h
        playLines h s fuel reads
      | _ =>
        let b ← get
        if !h.silent then put h b.space b.ended
        putLater h
        playLines h s fuel true

end Edit

end Editing

namespace Program

open Editing

/-- How the program is used. -/
def sedUsage : String :=
  "Usage: sed [OPTION]... \x7bscript-only-if-no-other-script\x7d [input-file]...

  -n, --quiet, --silent
                 suppress automatic printing of pattern space
      --debug
                 annotate program execution
  -e script, --expression=script
                 add the script to the commands to be executed
  -f script-file, --file=script-file
                 add the contents of script-file to the commands to be executed
  --follow-symlinks
                 follow symlinks when processing in place
  -i[SUFFIX], --in-place[=SUFFIX]
                 edit files in place (makes backup if SUFFIX supplied)
  -l N, --line-length=N
                 specify the desired line-wrap length for the `l' command
  --posix
                 disable all GNU extensions.
  -E, -r, --regexp-extended
                 use extended regular expressions in the script
                 (for portability use POSIX -E).
  -s, --separate
                 consider files as separate rather than as a single,
                 continuous long stream.
      --sandbox
                 operate in sandbox mode (disable e/r/w commands).
  -u, --unbuffered
                 load minimal amounts of data from the input files and flush
                 the output buffers more often
  -z, --null-data
                 separate lines by NUL characters
      --help     display this help and exit
      --version  output version information and exit

If no -e, --expression, -f, or --file option is given, then the first
non-option argument is taken as the sed script to interpret.  All
remaining arguments are names of input files; if no input files are
specified, then the standard input is read.

"

/-- Say how the program is used, and end. -/
def refuseEditing {α : Type} (why : Option String) : Work α := do
  match why with
  | some why => Work.say ("sed: " ++ why ++ "\n")
  | none => pure ()
  Work.say sedUsage
  Work.leave 1

/-- The place of a fault in one of several parts of a script: the number of the part and the place
in it. -/
def partAt : Nat → List String → Nat → Nat × Nat
  | n, [], place => (n, place)
  | n, [_], place => (n, place)
  | n, part :: rest, place =>
    if place ≤ part.length then (n, place) else partAt (n + 1) rest (place - part.length - 1)

/-- **Edit lines by a script.** -/
def sed : Work Unit := do
  let d ← get
  let table : Work.Switches :=
    { plain := "nErsuz", valued := "efl", attached := "i"
      long := [("quiet", 'n', .nothing), ("silent", 'n', .nothing), ("expression", 'e', .value),
        ("file", 'f', .value), ("in-place", 'i', .maybe), ("line-length", 'l', .value),
        ("posix", 'p', .nothing), ("regexp-extended", 'E', .nothing), ("separate", 's', .nothing),
        ("unbuffered", 'u', .nothing), ("null-data", 'z', .nothing), ("debug", 'd', .nothing),
        ("sandbox", 'b', .nothing), ("follow-symlinks", 'F', .nothing)] }
  let s ← match table.read d.call.arguments with
    | .ok s => pure s
    | .error why => refuseEditing (some why)
  let parts ← s.1.filterMapM fun (c, v) => do
    if c = 'e' then pure (some v)
    else if c = 'f' then
      match ← Work.contentOf v with
      | .ok bs =>
        let cs := Latin.characters bs
        pure (some (String.ofList (if cs.getLast? = some '\n' then cs.dropLast else cs)))
      | .error t => Work.fail ("couldn't open file " ++ v ++ ": " ++ t.errno.text) 4
    else pure none
  let (parts, paths) ← match s.has 'e' || s.has 'f', s.words with
    | true, words => pure (parts, words)
    | false, word :: rest => pure ([word], rest)
    | false, [] => refuseEditing none
  let text := "\n".intercalate parts
  let script ← match Script.read (s.has 'E' || s.has 'r') text.toList with
    | .ok script => pure script
    | .error (place, why) =>
      let (part, place) := partAt 1 parts place
      Work.fail ("-e expression #" ++ toString part ++ ", char " ++ toString place ++ ": " ++ why)
  let aims := script.steps.toList.filterMap fun step =>
    match step.action with
    | .branch _ label => if label.isEmpty then none else some label
    | _ => none
  match aims.find? fun label => (script.labelled? label).isNone with
  | some label => Work.fail ("can't find label for jump to `" ++ label ++ "'") 4
  | none => pure ()
  let targets ← script.files.eraseDups.filterMapM fun path => do
    if path = "/dev/stdout" || path = "/dev/stderr" then pure none
    else match ← Work.openFile path .replacing with
      | .ok fd => pure (some (path, fd))
      | .error e => Work.fail ("couldn't open file " ++ path ++ ": " ++ e.text) 4
  let inPlace := s.get? 'i'
  let habit : Habit :=
    { silent := s.has 'n' || script.silent, separate := s.has 's' || inPlace.isSome, inPlace
      ending := if s.has 'z' then '\x00' else '\n' }
  -- A range from the beginning has begun already.
  let begun := (List.range script.steps.size).filterMap fun i =>
    match (script.steps[i]?).map (·.selector) with
    | some (.fromStart _) => some (i, none)
    | _ => none
  let bench : Bench :=
    { reader := none, path := "-", waiting := Work.sources paths, line := 0, space := []
      ended := true, held := [], heldEnded := true, replaced := false, ranges := begun, spent := []
      later := []
      lacksEnd := false, used := none, targets, edited := [] }
  let (code, _) ← (Edit.playLines habit script Play.rounds true).run bench
  Work.blame code

end Program

end NestedSession.Rehearsal
