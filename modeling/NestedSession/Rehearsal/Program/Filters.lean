import NestedSession.Rehearsal.Program.Lines

/-!
# Rehearsal/Program/Filters — programs that copy, count and arrange what they read

    cat tee yes head tail wc tac rev nl paste fold od
-/

namespace NestedSession.Rehearsal.Program

/-! ## Copies -/

/-- Copy what is read under one descriptor to others, piece by piece. -/
def copyOn (from_ : Nat) (targets : List Nat) : Nat → Work (Except Errno Unit)
  | 0 => pure (.ok ())
  | fuel + 1 => do
    match ← Work.ask (Play.read from_ Play.readSize) with
    | .error e => pure (.error e)
    | .ok [] => pure (.ok ())
    | .ok bs =>
      let failed ← targets.filterMapM fun fd => do
        match ← Work.ask (Play.write fd bs) with
        | .ok () => pure none
        | .error e => pure (if fd = 1 then some e else none)
      match failed with
      | e :: _ => Work.fail ("write error: " ++ e.text)
      | [] => copyOn from_ targets fuel

/-- Copy one file to the output. -/
def copyFile (path : String) : Work Unit := do
  let refuse (e : Errno) : Work Unit := Work.complain (shown path ++ ": " ++ e.text)
  if path = "-" then
    match ← copyOn 0 [1] Play.rounds with
    | .ok () => pure ()
    | .error e => refuse e
  else match ← Work.openFile path .reading with
    | .error e => refuse e
    | .ok fd =>
      let copied ← copyOn fd [1] Play.rounds
      Work.close fd
      match copied with
      | .ok () => pure ()
      | .error e => refuse e

/-- A character as it is shown if it cannot be seen. -/
def visible (c : Char) : List Char :=
  let low (n : Nat) : List Char :=
    if n < 32 then ['^', Char.ofNat (n + 64)] else if n = 127 then ['^', '?'] else [Char.ofNat n]
  if c.toNat < 128 then low c.toNat else ['M', '-'] ++ low (c.toNat - 128)

/-- How lines are decorated. -/
structure Decoration where
  numbers : Bool
  /-- Empty lines have no numbers. -/
  skipsEmpty : Bool
  /-- Of empty lines in a row only one is kept. -/
  squeezes : Bool
  marksEnds : Bool
  showsTabs : Bool
  showsOthers : Bool

/-- Decorate lines; the number of the next line and whether the one before it was empty. -/
def decorate (d : Decoration) : Nat → Bool → List (List Char) → List (List Char)
  | _, _, [] => []
  | n, wasEmpty, line :: rest =>
    if d.squeezes && wasEmpty && line.isEmpty then decorate d n true rest
    else
      let counts := d.numbers && !(d.skipsEmpty && line.isEmpty)
      let mark := if counts then (padLeft 6 (toString n) ++ "\t").toList else []
      let body := line.flatMap fun c =>
        if c = '\t' then (if d.showsTabs then ['^', 'I'] else [c])
        else if d.showsOthers then visible c else [c]
      let ending := if d.marksEnds then ['$'] else []
      (mark ++ body ++ ending) :: decorate d (if counts then n + 1 else n) line.isEmpty rest

/-- **Copy files to the output**, one after the other. -/
def cat : Work Unit := do
  let s ← Work.switches
    { plain := "AbeEnstTuv"
      long := [("show-all", 'A', .nothing), ("number-nonblank", 'b', .nothing),
        ("show-ends", 'E', .nothing), ("number", 'n', .nothing),
        ("squeeze-blank", 's', .nothing), ("show-tabs", 'T', .nothing),
        ("show-nonprinting", 'v', .nothing)] }
  let has (cs : String) : Bool := cs.toList.any s.has
  let d : Decoration := ⟨has "nb", has "b", has "s", has "AeE", has "AtT", has "Aetv"⟩
  if s.1.all (·.1 == 'u') then (Work.sources s.words).forM copyFile
  else
    let texts ← (Work.sources s.words).filterMapM Work.textOf?
    let l := Lined.ofChars '\n' (String.join texts).toList
    let lines := decorate d 1 false l.lines
    -- A line that is not ended has no mark at its end.
    let lines := if l.ended || !d.marksEnds then lines
      else lines.dropLast ++ (lines.getLast?.map List.dropLast).toList
    Work.print (String.ofList (Lined.toChars '\n' ⟨lines, l.ended⟩))

/-- Copy the input to the output and to files. -/
def tee : Work Unit := do
  let s ← Work.switches
    { plain := "aip", long := [("append", 'a', .nothing), ("ignore-interrupts", 'i', .nothing)] }
  let access := if s.has 'a' then Access.appending else Access.replacing
  let fds ← s.words.filterMapM fun path => do
    match ← Work.openFile path access with
    | .ok fd => pure (some fd)
    | .error e =>
      Work.complain (shown path ++ ": " ++ e.text)
      pure none
  match ← copyOn 0 (1 :: fds) Play.rounds with
  | .ok () => pure ()
  | .error e => Work.complain ("read error: " ++ e.text)

/-- Write octets again and again. -/
def writeForever (bs : Octets) : Nat → Work Unit
  | 0 => pure ()
  | fuel + 1 => do
    match ← Work.ask (Play.write 1 bs) with
    | .ok () => writeForever bs fuel
    | .error e => Work.complain ("standard output: " ++ e.text)

/-- Write a line again and again. -/
def yes : Work Unit := do
  let words := (← get).call.arguments
  let line := " ".intercalate (if words.isEmpty then ["y"] else words) ++ "\n"
  let copies := 4096 / line.length + 1
  writeForever (List.replicate copies (Latin.octets line)).flatten Play.rounds

/-! ## Parts -/

/-- The part of a text that is wanted. -/
structure Share where
  /-- Whether lines are counted, or else octets. -/
  byLines : Bool
  count : Nat
  /-- Whether it is counted from the other end. -/
  fromOther : Bool

/-- Read the numbers of lines or octets that old switches give: `-5` is `-n 5`. -/
def modernized (words : List String) : List String :=
  match words with
  | word :: rest =>
    match word.toList with
    | sign :: d :: ds =>
      if (sign = '-' || sign = '+') && d.isDigit then
        let number := (d :: ds).takeWhile Char.isDigit
        let kinds := (d :: ds).drop number.length
        if kinds.all fun c => "cfqnl".toList.contains c then
          let kind := if kinds.contains 'c' then "-c" else "-n"
          let more := if kinds.contains 'f' then ["-f"] else []
          let value := if sign = '+' then sign :: number else number
          kind :: String.ofList value :: more ++ rest
        else words
      else words
    | _ => words
  | [] => []

/-- Read the switches with old ones made new. -/
def switchesModern (s : Work.Switches) : Work Work.Switched := do
  let d ← get
  let call := { d.call with words := d.call.name :: modernized d.call.arguments }
  set { d with call }
  Work.switches s

/-- The share that switches say. -/
def shareOf (s : Work.Switched) (otherSign : Char) : Work Share := do
  match (s.1.filter fun e => e.1 = 'n' || e.1 = 'c').getLast? with
  | none => pure ⟨true, 10, false⟩
  | some (kind, value) =>
    let (fromOther, digits) := match value.toList with
      | c :: rest =>
        if c = otherSign then (true, String.ofList rest)
        else if c = '-' || c = '+' then (false, String.ofList rest) else (false, value)
      | [] => (false, value)
    match count? digits with
    | some n => pure ⟨kind = 'n', n, fromOther⟩
    | none =>
      let unit := if kind = 'n' then "lines" else "bytes"
      Work.fail ("invalid number of " ++ unit ++ ": " ++ quoted value)

/-- How many octets some lines at the beginning have, if they are all there. -/
def lengthOfLines : Nat → Octets → Nat → Option Nat
  | 0, _, length => some length
  | _, [], _ => none
  | n + 1, b :: bs, length =>
    if b = 0x0A then lengthOfLines n bs (length + 1) else lengthOfLines (n + 1) bs (length + 1)

/-- Whether there is as much as is wanted. -/
def Share.isThere (p : Share) (bs : Octets) : Bool :=
  !p.fromOther && if p.byLines then (lengthOfLines p.count bs 0).isSome else p.count ≤ bs.length

/-- Read on until there is as much as is wanted. -/
def Share.readOn (p : Share) (fd : Nat) : Nat → Octets → Work (Except Errno Octets)
  | 0, got => pure (.ok got)
  | fuel + 1, got => do
    if p.isThere got then pure (.ok got)
    else match ← Work.ask (Play.read fd 1024) with
      | .error e => pure (.error e)
      | .ok [] => pure (.ok got)
      | .ok bs => p.readOn fd fuel (got ++ bs)

/-- The beginning of a text. -/
def Share.beginning (p : Share) (bs : Octets) : Octets :=
  if p.byLines then
    let lines := (Lined.ofChars '\n' (Latin.characters bs)).lines.length
    let count := if p.fromOther then lines - p.count else p.count
    match lengthOfLines count bs 0 with
    | some length => bs.take length
    | none => bs
  else bs.take (if p.fromOther then bs.length - p.count else p.count)

/-- The end of a text. -/
def Share.ending (p : Share) (bs : Octets) : Octets :=
  if p.byLines then
    let lines := (Lined.ofChars '\n' (Latin.characters bs)).lines.length
    let skipped := if p.fromOther then p.count - 1 else lines - p.count
    match lengthOfLines skipped bs 0 with
    | some length => bs.drop length
    | none => []
  else bs.drop (if p.fromOther then p.count - 1 else bs.length - p.count)

/-- Whether a name stands before each part. -/
def namesParts (s : Work.Switched) : Bool :=
  match s.last? "qv" with
  | some c => c = 'v'
  | none => 1 < s.words.length

/-- What a message calls a file. -/
def inputName (path : String) : String := if path = "-" then "standard input" else path

/-- Show the name of a file whose part comes next. -/
def announce (path : String) : Work Unit := do
  let isFirst := (← get).written.isEmpty
  Work.print ((if isFirst then "" else "\n") ++ "==> " ++ inputName path ++ " <==\n")

/-- Say that a file cannot be read. -/
def refuseFile (path : String) (t : Trouble) : Work Unit :=
  match t with
  | .opening e => Work.complain ("cannot open " ++ quoted path ++ " for reading: " ++ e.text)
  | .reading e => Work.complain ("error reading " ++ quoted (inputName path) ++ ": " ++ e.text)

/-- The switches of `head` and `tail`. -/
def partSwitches : Work.Switches :=
  { plain := "qvzfF", valued := "ncs"
    long := [("lines", 'n', .value), ("bytes", 'c', .value), ("quiet", 'q', .nothing),
      ("silent", 'q', .nothing), ("verbose", 'v', .nothing), ("follow", 'f', .maybe),
      ("retry", 'r', .nothing), ("sleep-interval", 's', .value), ("pid", 'p', .value)] }

/-- **Write the beginnings of files.** -/
def head : Work Unit := do
  let s ← switchesModern partSwitches
  let p ← shareOf s '-'
  (Work.sources s.words).forM fun path => do
    let opened ← if path = "-" then pure (.ok 0) else Work.openFile path .reading
    match opened with
    | .error e => refuseFile path (.opening e)
    | .ok fd =>
      let read ← p.readOn fd Play.rounds []
      if path != "-" then Work.close fd
      match read with
      | .error e => refuseFile path (.reading e)
      | .ok bs =>
        if namesParts s then announce path
        Work.print (Latin.text (p.beginning bs))

/-- Write what is added to a file, without an end. -/
def followFile (fd : Nat) : Nat → Work Unit
  | 0 => pure ()
  | fuel + 1 => do
    Work.flush
    let read ← Work.ask <| Play.await fun pid m =>
      let isPipe := match m.opened? pid fd with
        | some (_, ⟨.pipe _ _, _, _, _, _⟩) => true
        | _ => false
      match m.read pid fd Play.readSize with
      | some (.ok [], m) => if isPipe then some (.ok [], m) else none
      | other => other
    match read with
    | .ok (b :: bs) =>
      Work.print (Latin.text (b :: bs))
      followFile fd fuel
    | _ => pure ()

/-- **Write the ends of files.** -/
def tail : Work Unit := do
  let s ← switchesModern partSwitches
  let p ← shareOf s '+'
  let follows := s.has 'f' || s.has 'F'
  let paths := Work.sources s.words
  paths.forM fun path => do
    let opened ← if path = "-" then pure (.ok 0) else Work.openFile path .reading
    match opened with
    | .error e => refuseFile path (.opening e)
    | .ok fd =>
      match ← Work.ask (Play.readAll fd) with
      | .error e => refuseFile path (.reading e)
      | .ok bs =>
        if namesParts s then announce path
        Work.print (Latin.text (p.ending bs))
        if follows && path = paths.getLast?.getD "" then followFile fd Play.rounds
      if path != "-" then Work.close fd

/-! ## Counts -/

/-- What is counted of a text: lines, words, characters, octets, and the longest line. -/
def countsOf (bs : Octets) : List Nat :=
  let cs := Latin.characters bs
  let lines := (Lined.ofChars '\n' cs).lines
  let width (line : List Char) : Nat := (line.filter fun c => 32 ≤ c.toNat && c.toNat < 127).length
  [cs.count '\n', (wordsOf cs).length, cs.length, cs.length, (lines.map width).foldl max 0]

/-- The size of what is read, if it is a plain file. -/
def plainSize? (path : String) : Work (Option (Option Nat)) := do
  let sizeOf (node : FileNode) : Option Nat :=
    match node.content with
    | .plain bs => some bs.length
    | _ => none
  if path = "-" then
    Work.ask (Play.look fun pid m => some <| match m.opened? pid 0 with
      | some (_, ⟨.node n, _, _, _, _⟩) => (m.files.node? n).bind sizeOf
      | _ => none)
  else Work.view fun files cwd =>
    ((files.find cwd (Latin.octets path)).toOption).map sizeOf

/-- **Count lines, words and octets.** -/
def wc : Work Unit := do
  let s ← Work.switches
    { plain := "clLmw"
      long := [("bytes", 'c', .nothing), ("chars", 'm', .nothing), ("lines", 'l', .nothing),
        ("words", 'w', .nothing), ("max-line-length", 'L', .nothing)] }
  let kinds := "lwmcL".toList
  let chosen := kinds.filter s.has
  let chosen := if chosen.isEmpty then "lwc".toList else chosen
  let pick (counts : List Nat) : List Nat :=
    (kinds.zip counts).filterMap fun (c, n) => if chosen.contains c then some n else none
  let paths := Work.sources s.words
  let width ← if paths.length = 1 && chosen.length = 1 then pure 1 else do
    let sizes ← paths.mapM plainSize?
    let total := Number.total (sizes.map fun size => (size.bind id).getD 0)
    let least := if sizes.any (· == some none) then 7 else 1
    pure (max least (toString total).length)
  let show_ (counts : List Nat) (name : String) : Work Unit :=
    Work.print (" ".intercalate ((pick counts).map fun n => padLeft width (toString n))
      ++ (if name.isEmpty then "" else " " ++ name) ++ "\n")
  let total ← paths.foldlM (fun total path => do
    let name := if s.words.isEmpty then "" else shown path
    let add (counts : List Nat) : List Nat :=
      (List.zipWith (· + ·) total counts).dropLast ++ [max (total.getD 4 0) (counts.getD 4 0)]
    match ← Work.contentOf path with
    | .ok bs =>
      show_ (countsOf bs) name
      pure (add (countsOf bs))
    | .error t =>
      Work.complain (shown path ++ ": " ++ t.errno.text)
      match t with
      | .reading _ => show_ [0, 0, 0, 0, 0] name
      | .opening _ => pure ()
      pure total) [0, 0, 0, 0, 0]
  if 1 < paths.length then show_ total "total"

/-! ## Arrangements -/

/-- Write the lines of files in reverse order. -/
def tac : Work Unit := do
  let s ← Work.switches { plain := "br", valued := "s" }
  (Work.sources s.words).forM fun path => do
    match ← Work.contentOf path with
    | .ok bs =>
      let l := Lined.ofChars '\n' (Latin.characters bs)
      let lines := l.lines.map fun line => line ++ ['\n']
      let lines := if l.ended then lines
        else lines.dropLast ++ (lines.getLast?.map List.dropLast).toList
      Work.print (String.ofList lines.reverse.flatten)
    | .error (.opening e) =>
      Work.complain ("failed to open " ++ quoted path ++ " for reading: " ++ e.text)
    | .error (.reading e) => Work.complain (shown path ++ ": read error: " ++ e.text)

/-- Write each line from its end to its beginning. -/
def rev : Work Unit := do
  let s ← Work.switches {}
  (Work.sources s.words).forM fun path => do
    match ← Work.contentOf path with
    | .ok bs =>
      let l := Lined.ofChars '\n' (Latin.characters bs)
      Work.print (String.ofList (Lined.toChars '\n' { l with lines := l.lines.map List.reverse }))
    | .error t => Work.complain ("cannot open " ++ path ++ ": " ++ t.errno.text)

/-- Number lines. -/
def nl : Work Unit := do
  let s ← Work.switches { plain := "p", valued := "bdfhilnsvw" }
  let number (c : Char) (usual : Nat) : Nat := ((s.get? c).bind count?).getD usual
  let style := (s.get? 'b').getD "t"
  let separator := (s.get? 's').getD "\t"
  let width := number 'w' 6
  let format (n : Nat) : String := match s.get? 'n' with
    | some "ln" => padRight width (toString n)
    | some "rz" =>
      let ds := toString n
      String.ofList (List.replicate (width - ds.length) '0') ++ ds
    | _ => padLeft width (toString n)
  let texts ← (Work.sources s.words).filterMapM Work.textOf?
  let _ ← (linesOf '\n' (String.join texts)).foldlM (fun n line => do
    if style = "a" || (style = "t" && !line.isEmpty) then
      Work.printLine (format n ++ separator ++ String.ofList line)
      pure (n + number 'i' 1)
    else
      Work.printLine (String.ofList (List.replicate (width + separator.length) ' ' ++ line))
      pure n) (number 'v' 1)

/-- The characters that stand between the columns. -/
def delimiters : List Char → List (List Char)
  | [] => []
  | '\\' :: c :: rest =>
    (match c with
      | 'n' => ['\n']
      | 't' => ['\t']
      | '0' => []
      | c => [c]) :: delimiters rest
  | c :: rest => [c] :: delimiters rest

/-- Parts with delimiters between them, which are used in turn. -/
def joinWith (between : List (List Char)) : Nat → List (List Char) → List Char
  | _, [] => []
  | _, [part] => part
  | n, part :: rest => part ++ between.getD (n % between.length) [] ++ joinWith between (n + 1) rest

/-- The rows of columns. -/
def rows : Nat → List (List (List Char)) → List (List (List Char))
  | 0, _ => []
  | n + 1, columns =>
    columns.map (fun column => column.headD []) :: rows n (columns.map (·.drop 1))

/-- **Put lines of files side by side.** -/
def paste : Work Unit := do
  let s ← Work.switches
    { plain := "sz", valued := "d"
      long := [("delimiters", 'd', .value), ("serial", 's', .nothing)] }
  let between := delimiters ((s.get? 'd').getD "\t").toList
  let between := if between.isEmpty then [[]] else between
  let texts ← (Work.sources s.words).filterMapM Work.textOf?
  let columns := texts.map (linesOf '\n')
  if s.has 's' then printLines '\n' (columns.map (joinWith between 0))
  else
    let height := (columns.map List.length).foldl max 0
    printLines '\n' ((rows height columns).map (joinWith between 0))

/-- A line in pieces of a width; with `atBlanks` they end behind blanks if they can. -/
def pieces (width : Nat) (atBlanks : Bool) : Nat → List Char → List (List Char)
  | 0, cs => [cs]
  | fuel + 1, cs =>
    if cs.length ≤ width then [cs]
    else
      let piece := cs.take width
      let kept := (piece.reverse.dropWhile (· != ' ')).length
      let length := if atBlanks && 0 < kept then kept else width
      cs.take length :: pieces width atBlanks fuel (cs.drop length)

/-- Break long lines. -/
def fold : Work Unit := do
  let s ← Work.switches
    { plain := "bs", valued := "w"
      long := [("bytes", 'b', .nothing), ("spaces", 's', .nothing), ("width", 'w', .value)] }
  let width := max 1 (((s.get? 'w').bind count?).getD 80)
  let texts ← (Work.sources s.words).filterMapM Work.textOf?
  texts.forM fun t =>
    let l := Lined.ofChars '\n' t.toList
    let lines := l.lines.flatMap fun line => pieces width (s.has 's') line.length line
    Work.print (String.ofList (Lined.toChars '\n' ⟨lines, l.ended⟩))

/-! ## Dumps -/

/-- How units of octets are shown. -/
structure Unit_ where
  size : Nat
  width : Nat
  shows : Nat → String

/-- A number in a base with zeros before it. -/
def zeroed (base width n : Nat) : String :=
  let ds := Nat.toDigits base n
  String.ofList (List.replicate (width - ds.length) '0' ++ ds)

/-- How an octet is shown as a character. -/
def charShown (n : Nat) : String :=
  match [(0, "\\0"), (7, "\\a"), (8, "\\b"), (9, "\\t"), (10, "\\n"), (11, "\\v"), (12, "\\f"),
    (13, "\\r")].lookup n with
  | some t => t
  | none => if 32 ≤ n && n < 127 then String.singleton (Char.ofNat n) else zeroed 8 3 n

/-- How units are shown that a word says. -/
def unitShown? (kind : String) : Option Unit_ :=
  let hex (size : Nat) : Unit_ := ⟨size, 2 * size, zeroed 16 (2 * size)⟩
  let octal (size width : Nat) : Unit_ := ⟨size, width, zeroed 8 width⟩
  let decimal (size width : Nat) : Unit_ := ⟨size, width, fun n => toString n⟩
  match kind with
  | "c" => some ⟨1, 3, charShown⟩
  | "x1" => some (hex 1)
  | "x" | "x4" => some (hex 4)
  | "x2" => some (hex 2)
  | "o1" => some (octal 1 3)
  | "o2" => some (octal 2 6)
  | "u1" | "d1" => some (decimal 1 (if kind = "u1" then 3 else 4))
  | "u2" | "d2" => some (decimal 2 (if kind = "u2" then 5 else 6))
  | _ => none

/-- The number of the octets of a unit, the least first. -/
def unitValue : Octets → Nat
  | [] => 0
  | b :: bs => b.toNat + 256 * unitValue bs

/-- The units of octets. -/
def unitsOf (size : Nat) : Nat → Octets → List Octets
  | 0, _ => []
  | fuel + 1, bs => if bs.isEmpty then [] else bs.take size :: unitsOf size fuel (bs.drop size)

/-- Show octets in rows of sixteen; rows that come again are left out but for a star. -/
def dumpRows (place : Nat → String) (unit_ : Unit_) (all : Bool) :
    Nat → Nat → Octets → Option Octets → Bool → List String
  | 0, _, _, _, _ => []
  | fuel + 1, n, bs, before, starred =>
    if bs.isEmpty then [place n]
    else
      let row := bs.take 16
      let rest := bs.drop 16
      if !all && before = some row && row.length = 16 then
        let more := dumpRows place unit_ all fuel (n + 16) rest before true
        if starred then more else "*" :: more
      else
        let units := (unitsOf unit_.size 17 row).map fun u =>
          " " ++ padLeft unit_.width (unit_.shows (unitValue u))
        (place n ++ String.join units)
          :: dumpRows place unit_ all fuel (n + row.length) rest (some row) false

/-- **Show octets as numbers or characters.** -/
def od : Work Unit := do
  let s ← Work.switches
    { plain := "abcdoxvsl", valued := "AtNjw"
      long := [("address-radix", 'A', .value), ("format", 't', .value),
        ("read-bytes", 'N', .value), ("skip-bytes", 'j', .value),
        ("output-duplicates", 'v', .nothing)] }
  let kind := match s.last? "bcdoxt" with
    | some 'b' => "o1"
    | some 'c' => "c"
    | some 'd' => "u2"
    | some 'x' => "x2"
    | some 't' => (s.get? 't').getD "o2"
    | _ => "o2"
  match unitShown? kind with
  | none => Work.fail ("invalid type string " ++ quoted kind)
  | some unit_ =>
    let place (n : Nat) : String := match s.get? 'A' with
      | some "n" => ""
      | some "d" => zeroed 10 7 n
      | some "x" => zeroed 16 6 n
      | _ => zeroed 8 7 n
    let texts ← (Work.sources s.words).filterMapM Work.textOf?
    let bs := Latin.octets (String.join texts)
    let bs := bs.drop (((s.get? 'j').bind count?).getD 0)
    let bs := match (s.get? 'N').bind count? with
      | some n => bs.take n
      | none => bs
    let rows := dumpRows place unit_ (s.has 'v') (bs.length + 2) 0 bs none false
    (rows.filter (!·.isEmpty)).forM Work.printLine

end NestedSession.Rehearsal.Program
