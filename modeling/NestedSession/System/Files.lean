import NestedSession.System.Fault
import NestedSession.System.Path

/-!
# System/Files — a tree of files in memory

A tree gives names to nodes.  A place is the list of names that lead to it from the root; several
places may name one node, and a node outlives its names, so that who holds it can go on with it.  A
path is walked name by name from a directory, and every step needs a directory to start from
(`Files.walk`).
-/

namespace NestedSession

/-- A place in the tree: the names that lead to it from the root. -/
abbrev Place := List Octets

/-- Files that the system makes up. -/
inductive Device where
  /-- Empty, whatever is written. -/
  | null
  /-- Zeros without end. -/
  | zero
  /-- Zeros without end, and no room for anything. -/
  | full
  /-- What the reader has open under a number. -/
  | descriptor (n : Nat)
  deriving DecidableEq, Repr

/-- What a node holds. -/
inductive FileContent where
  | plain (bs : Octets)
  | directory
  /-- A path that is followed instead. -/
  | link (target : Path)
  | device (d : Device)
  deriving DecidableEq, Repr

/-- A node: a file, a directory, a link or a device. -/
structure FileNode where
  content : FileContent
  /-- Nine bits: who may read it, write it, and run it or walk through it. -/
  mode : Nat
  /-- When it was last changed. -/
  changed : Nat
  deriving DecidableEq, Repr

namespace FileNode

instance : Inhabited FileNode := ⟨.directory, 0, 0⟩

/-- Whether a node is a directory. -/
def isDirectory (node : FileNode) : Bool := node.content == .directory

/-- Whether a node is a link. -/
def isLink (node : FileNode) : Bool :=
  match node.content with
  | .link _ => true
  | _ => false

/-- The length of what is read from a node. -/
def size (node : FileNode) : Nat :=
  match node.content with
  | .plain bs => bs.length
  | .link target => target.length
  | .directory => 4096
  | .device _ => 0

/-- Whether anyone may run a node, or walk through it. -/
def runs (node : FileNode) : Bool := node.mode % 2 = 1 || node.mode / 8 % 2 = 1
  || node.mode / 64 % 2 = 1

end FileNode

/-- A tree of files. -/
structure Files where
  /-- The names, each with the number of its node. -/
  entries : List (Place × Nat)
  /-- The nodes, the root first. -/
  nodes : Array FileNode
  /-- The time, in nanoseconds; changes are marked with it. -/
  clock : Nat
  deriving Inhabited

namespace Path

/-- The name that means the directory itself. -/
def here : Octets := [0x2E]

/-- The name that means the directory above. -/
def above : Octets := [0x2E, 0x2E]

/-- The names of a path; a separator at its end counts as a last name `.`. -/
def names (p : Path) : List Octets :=
  (p.splitOn separator).filter (!·.isEmpty)
    ++ if p.getLast? == some separator then [here] else []

/-- A path without the separators at its end. -/
def withoutEnd (p : Path) : Path := (p.reverse.dropWhile (· == separator)).reverse

/-- The names of a path with those that mean nothing left out. -/
def parts (p : Path) : List Octets :=
  let ns := (p.splitOn separator).filter (!·.isEmpty)
  match ns with
  | [] => []
  | n :: rest =>
    if isAbsolute p then ns.filter (· != here) else n :: rest.filter (· != here)

/-- The path of some names. -/
def ofParts (absolute : Bool) (ns : List Octets) : Path :=
  (if absolute then [separator] else []) ++ [separator].intercalate ns

/-- The path of a place. -/
def ofPlace (place : Place) : Path := ofParts true place

/-- The most octets of a name. -/
def nameLimit : Nat := 255

/-- The number of octets that is too many for a path. -/
def lengthLimit : Nat := 4096

/-- The most links that are followed on the way along a path. -/
def linkLimit : Nat := 40

end Path

namespace Files

/-- A tree with nothing in it. -/
def empty : Files := ⟨[], #[⟨.directory, 493, 0⟩], 0⟩

/-- The number of the node at a place. -/
def number? (t : Files) (place : Place) : Option Nat :=
  if place.isEmpty then some 0 else t.entries.lookup place

/-- The node of a number. -/
def node? (t : Files) (number : Nat) : Option FileNode := t.nodes[number]?

/-- The node at a place. -/
def at? (t : Files) (place : Place) : Option FileNode := (t.number? place).bind t.node?

/-- **Put a new node at a place**, instead of what was there. -/
def put (t : Files) (place : Place) (content : FileContent) (mode : Nat) : Files :=
  { t with
    entries := (place, t.nodes.size) :: t.entries.filter (·.1 != place)
    nodes := t.nodes.push ⟨content, mode, t.clock⟩ }

/-- Change the content of a node. -/
def setContent (t : Files) (number : Nat) (content : FileContent) : Files :=
  { t with nodes := t.nodes.modify number fun node =>
      { node with content := content, changed := t.clock } }

/-- Change who may do what with a node. -/
def setMode (t : Files) (number mode : Nat) : Files :=
  { t with nodes := t.nodes.modify number fun node => { node with mode := mode } }

/-- Mark a node as changed at a time. -/
def stamp (t : Files) (number time : Nat) : Files :=
  { t with nodes := t.nodes.modify number fun node => { node with changed := time } }

/-- Whether there is a directory at a place. -/
def isDirectory (t : Files) (place : Place) : Bool := (t.at? place).any (·.isDirectory)

/-- Where the link at a place leads. -/
def link? (t : Files) (place : Place) : Option Path :=
  match t.at? place with
  | some ⟨.link target, _, _⟩ => some target
  | _ => none

/-- **The place that names lead to** from a place; it may be empty, but the way must be there.
Links are followed, the last one if so asked. -/
def walk (t : Files) (links : Nat) (place : Place) (names : List Octets) (follow : Bool) :
    Except Errno Place :=
  match names with
  | [] => .ok place
  | n :: ns =>
    match t.at? place with
    | none => .error .noEntry
    | some node =>
      if !node.isDirectory then .error .notDirectory
      else if n = Path.here then t.walk links place ns follow
      else if n = Path.above then t.walk links place.dropLast ns follow
      else if Path.nameLimit < n.length then .error .nameTooLong
      else match t.link? (place ++ [n]) with
        | none => t.walk links (place ++ [n]) ns follow
        | some target =>
          if ns.isEmpty && !follow then .ok (place ++ [n])
          else match links with
            | 0 => .error .linkLoop
            | links + 1 =>
              t.walk links (if Path.isAbsolute target then [] else place)
                (Path.names target ++ ns) follow
  termination_by (links, names.length)

/-- The place that names lead to from where a path starts. -/
def walkPath (t : Files) (cwd : Place) (p : Path) (names : List Octets) (follow : Bool) :
    Except Errno Place :=
  if p.isEmpty then .error .noEntry
  else if Path.lengthLimit ≤ p.length then .error .nameTooLong
  else t.walk Path.linkLimit (if Path.isAbsolute p then [] else cwd) names follow

/-- **The place of a path**, seen from a directory. -/
def place? (t : Files) (cwd : Place) (p : Path) : Except Errno Place :=
  t.walkPath cwd p (Path.names p) true

/-- The place of a path that may be that of a link. -/
def placeOfLink? (t : Files) (cwd : Place) (p : Path) : Except Errno Place :=
  t.walkPath cwd p (Path.names p) false

/-- **The place of a name to be made**: the directory above it is there. -/
def newPlace? (t : Files) (cwd : Place) (p : Path) : Except Errno Place := do
  let names := Path.names (Path.withoutEnd p)
  let dir ← t.walkPath cwd p names.dropLast true
  match t.at? dir, names.getLast? with
  | none, _ => .error .noEntry
  | _, none => .error .exists_
  | some node, some n =>
    if !node.isDirectory then .error .notDirectory
    else if n = Path.here || n = Path.above then .error .exists_
    else if Path.nameLimit < n.length then .error .nameTooLong
    else if (t.number? (dir ++ [n])).isSome then .error .exists_
    else .ok (dir ++ [n])

/-- What is at a path. -/
def find (t : Files) (cwd : Place) (p : Path) : Except Errno FileNode := do
  match t.at? (← t.place? cwd p) with
  | some node => .ok node
  | none => .error .noEntry

/-- The content of a file. -/
def read (t : Files) (cwd : Place) (p : Path) : Except Errno Octets := do
  match (← t.find cwd p).content with
  | .plain bs => .ok bs
  | .directory => .error .isDirectory
  | _ => .ok []

/-- The rights of a new file, and of a new directory, before any are withheld. -/
def fileMode : Nat := 438

/-- The rights of a new directory, before any are withheld. -/
def directoryMode : Nat := 511

/-- Rights with those of a mask withheld. -/
def masked (mode mask : Nat) : Nat := mode - (mode &&& mask)

/-- The mask of those who ask for none. -/
def usualMask : Nat := 18

/-- **The node of a file to be written**, made if there is none. -/
def reach (t : Files) (cwd : Place) (p : Path) (mask : Nat) : Except Errno (Files × Nat) := do
  if p.getLast? = some Path.separator then
    match t.newPlace? cwd p with
    | .error e => if e = .exists_ then .error .isDirectory else .error e
    | .ok _ => .error .isDirectory
  else
    let place ← t.place? cwd p
    match t.number? place with
    | some number =>
      if t.isDirectory place then .error .isDirectory else .ok (t, number)
    | none =>
      if t.isDirectory place.dropLast then
        .ok (t.put place (.plain []) (masked fileMode mask), t.nodes.size)
      else .error .noEntry

/-- Write a whole file. -/
def write (t : Files) (cwd : Place) (p : Path) (content : Octets) : Except Errno Files := do
  let (t, number) ← t.reach cwd p usualMask
  match t.node? number with
  | some ⟨.device _, _, _⟩ => .ok t
  | _ => .ok (t.setContent number (.plain content))

/-- Make one directory. -/
def makeDir (t : Files) (cwd : Place) (p : Path) (mode : Nat) : Except Errno Files := do
  let place ← t.newPlace? cwd p
  .ok (t.put place .directory mode)

/-- Whether a path is that of a directory. -/
def isDirectoryAt (t : Files) (cwd : Place) (p : Path) : Bool :=
  match t.find cwd p with
  | .ok node => node.isDirectory
  | .error _ => false

/-- Make a directory that may be there already. -/
def provideDir (t : Files) (cwd : Place) (p : Path) (mode : Nat) : Except Errno Files :=
  match t.makeDir cwd p mode with
  | .ok t => .ok t
  | .error e => if t.isDirectoryAt cwd p then .ok t else .error e

/-- Make a directory, and those that lead to it, given by its names from the last one on, if it is
they that are missing. -/
def makeBelow (t : Files) (cwd : Place) (absolute : Bool) (mode : Nat) (p : Path) :
    List Octets → Except Errno Files
  | [] => .ok t
  | _ :: above =>
    match t.makeDir cwd p mode with
    | .ok t => .ok t
    | .error e =>
      if e = .noEntry then
        match t.makeBelow cwd absolute mode (Path.ofParts absolute above.reverse) above with
        | .error e => .error e
        | .ok t => t.provideDir cwd p mode
      else if t.isDirectoryAt cwd p then .ok t
      else .error e

/-- **Make a directory and all that lead to it.**  The empty path needs none. -/
def makeDirs (t : Files) (cwd : Place) (p : Path) : Except Errno Files :=
  let names := (Path.parts p).reverse
  if names.isEmpty && Path.isAbsolute p then .ok t
  else t.makeBelow cwd (Path.isAbsolute p) (masked directoryMode usualMask) p names

/-- Give a node one more name. -/
def name (t : Files) (place : Place) (number : Nat) : Files :=
  { t with entries := (place, number) :: t.entries.filter (·.1 != place) }

/-- How many names a node has. -/
def countNames (t : Files) (number : Nat) : Nat := (t.entries.filter (·.2 == number)).length

/-- Remove a place with all below it. -/
def remove (t : Files) (place : Place) : Files :=
  { t with entries := t.entries.filter fun entry => !place.isPrefixOf entry.1 }

/-- Give a place, with all below it, another name. -/
def move (t : Files) (place other : Place) : Files :=
  let rest := t.entries.filter fun entry => !other.isPrefixOf entry.1
  { t with entries := rest.map fun (p, number) =>
      if place.isPrefixOf p then (other ++ p.drop place.length, number) else (p, number) }

/-- The names right below a place. -/
def namesAt (t : Files) (place : Place) : List Octets :=
  t.entries.filterMap fun entry =>
    if !entry.1.isEmpty && entry.1.dropLast = place then entry.1.getLast? else none

end Files

end NestedSession
