import NestedSession.Rehearsal.Program.Calendar
import NestedSession.Rehearsal.Program.Printing
import NestedSession.Rehearsal.Program.Trees.Basic

/-!
# Rehearsal/Program/Trees/Listing — programs that show what files there are

    ls stat

What is named on the command line comes first, then the directories, each with what it holds.
-/

namespace NestedSession.Rehearsal.Program

/-! ## Marks -/

/-- The letter of a kind of file. -/
def kindLetter (f : FileNode) : Char :=
  match f.content with
  | .plain _ => '-'
  | .directory => 'd'
  | .link _ => 'l'
  | .device _ => 'c'

/-- The kind and the rights of a file. -/
def rightsText (f : FileNode) : String := String.singleton (kindLetter f) ++ Rights.letters f.mode

/-- The sign behind the name of a file; all of them, or only that of directories. -/
def signOf (all : Bool) (f : FileNode) : String :=
  match f.content with
  | .directory => "/"
  | .link _ => if all then "@" else ""
  | .plain _ => if all && f.mode &&& 0o111 != 0 then "*" else ""
  | .device _ => ""

/-- How many names a file has, its own and those of the directories in it that lead back. -/
def linksOf (files : Files) (f : Found) : Nat :=
  if f.isDirectory then 2 + ((f.children files).filter (·.isDirectory)).length
  else files.countNames f.number

/-- The number of kibibytes that a file takes. -/
def blocksOf (f : FileNode) : Nat :=
  match f.content with
  | .plain bs => (bs.length + 4095) / 4096 * 4
  | .directory => 4
  | _ => 0

/-- A size with a unit, to one place below ten. -/
def humanOn : Nat → Nat → List Char → String
  | 0, n, _ => toString n
  | _, n, [] => toString n
  | fuel + 1, n, unit :: rest =>
    if n < 1024 * 1024 || rest.isEmpty then
      let tenths := (n * 10 + 1023) / 1024
      if tenths < 100 then
        toString (tenths / 10) ++ "." ++ toString (tenths % 10) ++ String.singleton unit
      else toString ((n + 1023) / 1024) ++ String.singleton unit
    else humanOn fuel (n / 1024) rest

/-- A size for the eye. -/
def human (n : Nat) : String := if n < 1024 then toString n else humanOn 6 n "KMGTP".toList

/-! ## Lists -/

/-- How files are listed. -/
structure Listing where
  /-- What begins with a point is shown, and the two names that every directory has. -/
  hidden : Bool
  dots : Bool
  long : Bool
  directories : Bool
  recursive : Bool
  follows : Bool
  signs : Option Bool
  order : Option Char
  reversed : Bool
  human : Bool
  numeric : Bool
  owner : Bool
  group : Bool
  joined : Bool
  inodes : Bool
  sizes : Bool
  quoted : Bool
  form : String

/-- A file under the name that it is listed by. -/
structure Listed where
  name : String
  found : Found

namespace Listing

/-- Whether one file comes before another. -/
def precedes (l : Listing) (a b : Listed) : Bool :=
  let byName := compareOfLessAndEq a.name b.name
  let key : Ordering := match l.order with
    | some 't' => compare b.found.node.changed a.found.node.changed
    | some 'S' => compare b.found.node.size a.found.node.size
    | _ => .eq
  (key.then byName) != .gt

/-- Sort what is listed. -/
def sorted (l : Listing) (all : List Listed) : List Listed :=
  let all := if l.order = some 'U' then all else all.mergeSort l.precedes
  if l.reversed then all.reverse else all

/-- A name as it is listed. -/
def nameOf (l : Listing) (files : Files) (x : Listed) : String :=
  let name := if l.quoted then "\"" ++ x.name ++ "\"" else x.name
  let sign (node : FileNode) : String := l.signs.elim "" fun all => signOf all node
  match l.long, x.found.node.content with
  | true, .link target =>
    let aim := Found.of? files x.found.place.dropLast (Latin.text target) true
    name ++ " -> " ++ Latin.text target ++ (aim.toOption.map fun f => sign f.node).getD ""
  | _, _ => name ++ sign x.found.node

/-- The lines of a list. -/
def lines (l : Listing) (files : Files) (all : List Listed) : List String :=
  let column (f : Listed → String) (right : Bool) : List String :=
    let texts := all.map f
    let width := (texts.map String.length).foldl max 0
    texts.map (if right then padLeft width else padRight width)
  let size (x : Listed) : String :=
    if l.human then Program.human x.found.node.size else toString x.found.node.size
  let owner (_ : Listed) : String := if l.numeric then "0" else "root"
  let time (x : Listed) : String :=
    (Calendar.Moment.ofNanoseconds x.found.node.changed).write l.form
  let columns : List (List String) :=
    (if l.inodes then [column (fun x => toString (x.found.number + 2)) true] else [])
    ++ (if l.sizes then [column (fun x => toString (blocksOf x.found.node)) true] else [])
    ++ (if l.long then
      [column (fun x => rightsText x.found.node) false,
        column (fun x => toString (linksOf files x.found)) true]
      ++ (if l.owner then [column owner false] else [])
      ++ (if l.group then [column owner false] else [])
      ++ [column size true, column time false] else [])
    ++ [all.map (l.nameOf files)]
  let rows := (List.range all.length).map fun i =>
    " ".intercalate (columns.map fun texts => texts.getD i "")
  if l.joined && !l.long then (if rows.isEmpty then [] else [", ".intercalate rows]) else rows

/-- What a directory holds, as it is listed. -/
def within (l : Listing) (files : Files) (f : Found) : List Listed :=
  let named (name : String) (place : Place) : Option Listed :=
    ((Found.at? files (Found.pathWithin f.path name) place).toOption).map fun x => ⟨name, x⟩
  let dots := if l.dots then
    [named "." f.place, named ".." f.place.dropLast].filterMap id else []
  let children := (f.children files).map fun x => (⟨lastPart x.path, x⟩ : Listed)
  let children := children.filter fun x => l.hidden || x.name.toList.head? != some '.'
  let aims (x : Listed) : Listed :=
    if l.follows then
      match Found.of? files [] (pathOf x.found.place) true with
      | .ok aim => { x with found := { aim with path := x.found.path } }
      | .error _ => x
    else x
  l.sorted ((dots ++ children).map aims)

/-- What directories hold, each behind its name, and what the directories in them hold. -/
def directoriesOn (l : Listing) (files : Files) (titled : Bool) :
    Nat → Bool → List Found → List String
  | 0, _, _ => []
  | _, _, [] => []
  | fuel + 1, isFirst, f :: rest =>
    let all := l.within files f
    let blocks := Number.total (all.map fun x => blocksOf x.found.node)
    let below := if l.recursive then
      (all.filter fun x => x.found.isDirectory && x.name != "." && x.name != "..").map (·.found)
      else []
    (if titled || l.recursive then (if isFirst then [] else [""]) ++ [f.path ++ ":"] else [])
      ++ (if l.long || l.sizes then ["total " ++ toString blocks] else [])
      ++ l.lines files all
      ++ directoriesOn l files titled fuel false (below ++ rest)

end Listing

/-- The form of times that a word means. -/
def timeForm (word : String) : String :=
  match word.toList with
  | '+' :: form => String.ofList (form.takeWhile (· != '\n'))
  | _ =>
    if word = "long-iso" then "%Y-%m-%d %H:%M"
    else if word = "full-iso" then "%Y-%m-%d %H:%M:%S.%N %z"
    else if word = "iso" then "%m-%d %H:%M"
    else "%b %e %H:%M"

/-- **List files.** -/
def ls : Work Unit := do
  Work.dread 2
  let s ← Work.switches
    { plain := "1aAbBcCdfFgGhHiklLmnNopqQrRsStuUvxXZ", valued := "ITw"
      long := [("all", 'a', .nothing), ("almost-all", 'A', .nothing), ("directory", 'd', .nothing),
        ("classify", 'F', .maybe), ("file-type", 'p', .nothing), ("indicator-style", 'p', .value),
        ("human-readable", 'h', .nothing), ("inode", 'i', .nothing),
        ("dereference", 'L', .nothing), ("numeric-uid-gid", 'n', .nothing),
        ("no-group", 'G', .nothing), ("quote-name", 'Q', .nothing), ("reverse", 'r', .nothing),
        ("recursive", 'R', .nothing), ("size", 's', .nothing), ("color", 'k', .maybe),
        ("time-style", 'T', .value), ("full-time", 'E', .nothing),
        ("group-directories-first", 'k', .nothing), ("sort", 'O', .value), ("time", 'k', .value),
        ("width", 'w', .value), ("ignore", 'I', .value), ("format", 'k', .value)] } 2
  let given := (s.get? 'O').map fun word => match word with
    | "size" => 'S'
    | "time" => 't'
    | "none" => 'U'
    | _ => 'X'
  let l : Listing :=
    { hidden := s.has 'a' || s.has 'A' || s.has 'f', dots := s.last? "aA" = some 'a' || s.has 'f'
      long := ["l", "n", "g", "o", "E"].any fun c => c.toList.any s.has
      directories := s.has 'd', recursive := s.has 'R' && !s.has 'd', follows := s.has 'L'
      signs := if s.has 'F' then some true else if s.has 'p' then some false else none
      order := given <|> (if s.has 'f' then some 'U' else s.last? "StU")
      reversed := s.has 'r', human := s.has 'h', numeric := s.has 'n', owner := !s.has 'g'
      group := !(s.has 'o' || s.has 'G'), joined := s.last? "m1" = some 'm'
      inodes := s.has 'i', sizes := s.has 's', quoted := s.has 'Q'
      form := if s.has 'E' then timeForm "full-iso" else timeForm ((s.get? 'T').getD "") }
  let paths := if s.words.isEmpty then ["."] else s.words
  let follow := !(l.long || l.directories || s.has 'F') || l.follows || s.has 'H'
  let found ← paths.filterMapM fun path => do
    match ← Work.find path true, ← Work.find path false with
    | .ok f, .ok bare =>
      pure (some (⟨path, if follow && (f.isDirectory || l.follows) then f else bare⟩ : Listed))
    | .error _, .ok bare => pure (some ⟨path, bare⟩)
    | _, .error e =>
      Work.say ("ls: cannot access " ++ quoted path ++ ": " ++ e.text ++ "\n")
      Work.blame 2
      pure none
  let isDirectory (x : Listed) : Bool := !l.directories && x.found.isDirectory
  let plain := l.sorted (found.filter fun x => !isDirectory x)
  let dirs := (l.sorted (found.filter isDirectory)).map fun x => { x.found with path := x.name }
  let (top, below) ← Work.view fun files _ =>
    (l.lines files plain,
      l.directoriesOn files (1 < paths.length) (files.entries.length + dirs.length + 1) true dirs)
  let between := if top.isEmpty || below.isEmpty then [] else [""]
  (top ++ between ++ below).forM Work.printLine

/-! ## Facts about files -/

/-- The kind of a file in words. -/
def wordsOfKind (f : Found) : String := f.kind

/-- What a letter of a form says about a file. -/
def statPart (files : Files) (f : Found) (c : Char) : String :=
  let moment := Calendar.Moment.ofNanoseconds f.node.changed
  match c with
  | 'n' => f.path
  | 'N' =>
    match f.node.content with
    | .link target => quoted f.path ++ " -> " ++ quoted (Latin.text target)
    | _ => quoted f.path
  | 's' => toString f.node.size
  | 'a' => Rights.octal 1 f.node.mode
  | 'A' => rightsText f.node
  | 'F' => wordsOfKind f
  | 'h' => toString (linksOf files f)
  | 'u' | 'g' => "0"
  | 'U' | 'G' => "root"
  | 'i' => toString (f.number + 2)
  | 'b' => toString (2 * blocksOf f.node)
  | 'B' => "512"
  | 'o' => "4096"
  | 'f' =>
    let kind := match f.node.content with
      | .plain _ => 0o100000
      | .directory => 0o40000
      | .link _ => 0o120000
      | .device _ => 0o20000
    String.ofList (Nat.toDigits 16 (kind + f.node.mode))
  | 'X' | 'Y' | 'Z' => toString moment.seconds
  | 'x' | 'y' | 'z' => moment.write "%Y-%m-%d %H:%M:%S.%N %z"
  | 'W' => "0"
  | 'w' => "-"
  | 't' | 'T' => "0"
  | 'm' => "/"
  | _ => "?"

/-- Fill in a form about a file. -/
def statForm (files : Files) (f : Found) (escapes : Bool) : Nat → List Char → List Char
  | 0, _ => []
  | _, [] => []
  | fuel + 1, '%' :: rest =>
    let flags := rest.takeWhile fun c => "-0+ #".toList.contains c
    let behind := rest.drop flags.length
    let digits := behind.takeWhile Char.isDigit
    let width := (Number.digits 10 digits).1
    match behind.drop digits.length with
    | [] => ['%']
    | '%' :: more => '%' :: statForm files f escapes fuel more
    | c :: more =>
      let t := statPart files f c
      let t := if flags.contains '-' then padRight width t
        else if flags.contains '0' && t.toList.all Char.isDigit then
          String.ofList (List.replicate (width - t.length) '0') ++ t
        else padLeft width t
      t.toList ++ statForm files f escapes fuel more
  | fuel + 1, c :: rest =>
    if escapes && c = '\\' then
      let (written, rest) := Printing.escape rest
      written :: statForm files f escapes fuel rest
    else c :: statForm files f escapes fuel rest

/-- **Say what is known about files.** -/
def stat : Work Unit := do
  let s ← Work.switches
    { plain := "Lft", valued := "cP"
      long := [("dereference", 'L', .nothing), ("format", 'c', .value), ("printf", 'P', .value),
        ("terse", 't', .nothing)] }
  if s.words.isEmpty then Work.misuse "missing operand"
  let usual := "  File: %N\n  Size: %-10s\tBlocks: %-10b IO Block: %-6o %F\n"
    ++ "Device: 0,1\tInode: %-11i  Links: %h\n"
    ++ "Access: (%04a/%10.10A)  Uid: (%5u/%8U)   Gid: (%5g/%8G)\n"
    ++ "Access: %x\nModify: %y\nChange: %z\n Birth: -\n"
  s.words.forM fun path => do
    match ← Work.find path (s.has 'L') with
    | .error e =>
      Work.complain ("cannot statx " ++ quoted path ++ ": " ++ e.text)
    | .ok f =>
      let written (form : String) (escapes : Bool) : Work String := Work.view fun files _ =>
        String.ofList (statForm files f escapes (form.length + 1) form.toList)
      match s.get? 'P', s.get? 'c' with
      | some form, _ => Work.print (← written form true)
      | none, some form => Work.printLine (← written form false)
      | none, none => Work.print (← written usual false)

end NestedSession.Rehearsal.Program
