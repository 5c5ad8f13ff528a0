import NestedSession.Rehearsal.Latin
import NestedSession.Rehearsal.Role

/-!
# Rehearsal/Program/Finding — how a name leads to a program

A program is a file that may be run and begins with a mark, behind which its name stands; a script
may be run too, and says in its first line which program reads it.  A name without a separator is
looked for in the directories of the search path.
-/

namespace NestedSession.Rehearsal

/-- What is run: a program's words, the first being its name, with its variables. -/
structure Call where
  words : List String
  environment : List (String × String)

namespace Call

/-- The words behind the name. -/
def arguments (c : Call) : List String := c.words.drop 1

/-- The name. -/
def name (c : Call) : String := c.words.headD ""

/-- The value of a variable. -/
def get? (c : Call) (name : String) : Option String := c.environment.lookup name

end Call

namespace Program

/-- What the file of a program begins with. -/
def signature : List Char := ['\x7f', 'E', 'L', 'F']

/-- The content of a program's file. -/
def content (name : String) : Octets := Latin.spell signature ++ Latin.octets name

/-- What a file is when it is run. -/
inductive Image where
  | program (name : String)
  /-- Read by another program, with the words to begin with. -/
  | script (reader : String) (words : List String)
  /-- Nothing that says how it is run. -/
  | text

/-- The reader that a script names in its first line. -/
def readerOf (line : List Char) : Image :=
  let isBlank (c : Char) : Bool := c = ' ' || c = '\t'
  let line := line.dropWhile isBlank
  let reader := line.takeWhile fun c => !isBlank c
  let rest := (line.drop reader.length).dropWhile isBlank
  let rest := (rest.reverse.dropWhile isBlank).reverse
  .script (String.ofList reader) (if rest.isEmpty then [] else [String.ofList rest])

/-- What a file is when it is run. -/
def imageOf (bs : Octets) : Image :=
  let cs := Latin.characters (bs.take 256)
  if signature.isPrefixOf cs then .program (String.ofList (cs.drop signature.length))
  else match cs with
    | '#' :: '!' :: rest => readerOf (rest.takeWhile (· != '\n'))
    | _ => .text

/-- The content of a file that may be run. -/
def runnable (t : Files) (cwd : Place) (path : String) : Except Errno Octets := do
  let node ← t.find cwd (Latin.octets path)
  match node.content with
  | .plain bs => if node.runs then .ok bs else .error .noAccess
  | _ => .error .noAccess

/-- **The program that a path leads to**, with the words it is given; scripts may be read by
scripts, but only so deep. -/
def load (t : Files) (cwd : Place) :
    Nat → String → List String → Except Errno (String × List String)
  | 0, _, _ => .error .linkLoop
  | depth + 1, path, words => do
    match imageOf (← runnable t cwd path) with
    | .program name => .ok (name, words)
    | .script reader more => load t cwd depth reader (reader :: more ++ path :: words.drop 1)
    | .text => .error .notProgram

/-- The most scripts that are read by one another. -/
def depthLimit : Nat := 5

/-- The program that a path leads to; what says nothing of how it is run is read by a shell. -/
def loadForShell (t : Files) (cwd : Place) (path : String) (words : List String) :
    Except Errno (String × List String) :=
  match load t cwd depthLimit path words with
  | .error e =>
    if e = .notProgram then load t cwd depthLimit "/bin/sh" ("sh" :: path :: words.drop 1)
    else .error e
  | found => found

/-- The search path of those who have none. -/
def usualPath : String := "/bin:/usr/bin"

/-- The directories of a search path. -/
def directories (path : String) : List String :=
  (path.toList.splitOn ':').map String.ofList

/-- The path of a name in a directory. -/
def within (dir name : String) : String := if dir.isEmpty then name else dir ++ "/" ++ name

/-- Whether a name is a path. -/
def isPath (name : String) : Bool := name.toList.contains '/'

/-- **Try a name in one directory after the other.**  A file that may not be run is passed over,
but remembered; other faults end the search. -/
def tryAlong {α : Type} (load : String → Except Errno α) (name : String) (refused : Bool) :
    List String → Except Errno α
  | [] => .error (if refused then .noAccess else .noEntry)
  | dir :: dirs =>
    match load (within dir name) with
    | .ok found => .ok found
    | .error e =>
      if e = .noAccess then tryAlong load name true dirs
      else if e = .noEntry || e = .notDirectory then tryAlong load name refused dirs
      else .error e

/-- **Find a program by its name**, along a search path. -/
def find (t : Files) (cwd : Place) (path : String) (words : List String) (byShell : Bool) :
    Except Errno (String × List String) :=
  let name := words.headD ""
  let load (file : String) : Except Errno (String × List String) :=
    if byShell then loadForShell t cwd file words else load t cwd depthLimit file words
  if name.isEmpty then .error .noEntry
  else if isPath name then load name
  else if Path.nameLimit < name.length then .error .nameTooLong
  else tryAlong load name false (directories path)

end Program

end NestedSession.Rehearsal
