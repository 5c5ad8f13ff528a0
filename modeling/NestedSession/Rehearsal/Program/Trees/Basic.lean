import NestedSession.Rehearsal.Program.Naming
import NestedSession.Rehearsal.Program.Trees.Rights

/-!
# Rehearsal/Program/Trees/Basic — files as programs find them

A program finds a file by a path, and may follow a link that is its last part or not.  Where
several files go to one place, that place is a directory, and each keeps its last part.
-/

namespace NestedSession.Rehearsal

/-- A file as it was found. -/
structure Found where
  path : String
  place : Place
  number : Nat
  node : FileNode

namespace Found

/-- Whether it is a directory. -/
def isDirectory (f : Found) : Bool := f.node.isDirectory

/-- What is found at a place. -/
def at? (files : Files) (path : String) (place : Place) : Except Errno Found :=
  match (files.number? place).bind fun n => (files.node? n).map fun node => (n, node) with
  | some (n, node) => .ok ⟨path, place, n, node⟩
  | none => .error .noEntry

/-- **Find a file by its path.** -/
def of? (files : Files) (cwd : Place) (path : String) (follow : Bool) : Except Errno Found := do
  at? files path (← files.walkPath cwd (Latin.octets path) (Path.names (Latin.octets path)) follow)

/-- The path of what is in a directory. -/
def pathWithin (dir name : String) : String :=
  if dir.toList.getLast? = some '/' then dir ++ name else dir ++ "/" ++ name

/-- What a directory holds, sorted by name. -/
def children (files : Files) (f : Found) : List Found :=
  let names := (files.namesAt f.place).mergeSort fun a b => a ≤ b
  names.filterMap fun n =>
    (at? files (pathWithin f.path (Latin.text n)) (f.place ++ [n])).toOption

/-- A file and all below it, each directory before what it holds. -/
def walk (files : Files) : Nat → Found → List Found
  | 0, _ => []
  | fuel + 1, f =>
    f :: if f.isDirectory then (f.children files).flatMap (walk files fuel) else []

/-- **A file and all below it.** -/
def all (files : Files) (f : Found) : List Found := walk files (files.entries.length + 1) f

/-- What kind of file it is. -/
def kind (f : Found) : String :=
  match f.node.content with
  | .plain [] => "regular empty file"
  | .plain _ => "regular file"
  | .directory => "directory"
  | .link _ => "symbolic link"
  | .device _ => "character special file"

end Found

namespace Work

/-- Find a file. -/
def find (path : String) (follow : Bool) : Work (Except Errno Found) :=
  view fun files cwd => Found.of? files cwd path follow

/-- Change the files, or say what could not be done. -/
def manage (what : String) (f : Files → Place → Nat → Except Errno Files) : Work Bool := do
  match ← change fun files cwd mask => (f files cwd mask).map fun files => ((), files) with
  | .ok () => pure true
  | .error e =>
    complain (what ++ ": " ++ e.text)
    pure false

end Work

namespace Program

/-- Where files go. -/
inductive Goal where
  /-- Into a directory. -/
  | into (dir : String)
  /-- One file to one path. -/
  | exactly (path : String)

/-- The path that a file gets. -/
def Goal.pathFor (g : Goal) (path : String) : String :=
  match g with
  | .into dir => Found.pathWithin dir (lastPart path)
  | .exactly path => path

/-- **The files that go somewhere, and where.**  The last word is where, unless a switch says
so. -/
def goalOf (s : Work.Switched) : Work (List String × Goal) := do
  let words := s.words
  if words.isEmpty then Work.misuse "missing file operand"
  match s.get? 't' with
  | some dir =>
    match ← Work.find dir true with
    | .error e => Work.fail ("target directory " ++ quoted dir ++ ": " ++ e.text)
    | .ok found =>
      if found.isDirectory then pure (words, .into dir)
      else Work.fail ("target directory " ++ quoted dir ++ ": " ++ Errno.notDirectory.text)
  | none =>
    let goal := words.getLastD ""
    if words.length < 2 then
      Work.misuse ("missing destination file operand after " ++ quoted goal)
    if s.has 'T' then
      if 2 < words.length then Work.misuse ("extra operand " ++ quoted (words.getD 2 ""))
      pure (words.dropLast, .exactly goal)
    else
      match ← Work.find goal true with
      | .ok found =>
        if found.isDirectory then pure (words.dropLast, .into goal)
        else if words.length = 2 then pure (words.dropLast, .exactly goal)
        else Work.fail ("target " ++ quoted goal ++ ": " ++ Errno.notDirectory.text)
      | .error e =>
        if words.length = 2 then pure (words.dropLast, .exactly goal)
        else Work.fail ("target " ++ quoted goal ++ ": " ++ e.text)

end Program

end NestedSession.Rehearsal
