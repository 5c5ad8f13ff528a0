/-!
# Rehearsal/Script/Command — what a script consists of

A session is rehearsed with a small script in place of a compositor.  A script is a list of commands
of the usual shell; a command consists of words, and a word of parts whose values are put in when it
is run.  The bodies of documents that stand in the script itself are kept apart and are named by
their numbers.
-/

namespace NestedSession.Rehearsal

/-- What is done with a value before it is put in. -/
inductive Rule where
  /-- It is put in as it is. -/
  | plain
  /-- A word stands in for it if there is none. -/
  | orWord
  /-- A word stands in for it if there is one. -/
  | thenWord
  /-- A word becomes the value if there is none. -/
  | assign
  /-- A word says what is wrong if there is none. -/
  | demand
  /-- Its length is put in. -/
  | length
  /-- What matches a pattern is cut off on the left: as much as possible if `long`. -/
  | cutLeft (long : Bool)
  /-- What matches a pattern is cut off on the right. -/
  | cutRight (long : Bool)
  /-- It cannot be done. -/
  | bad
  deriving DecidableEq, Repr

/-- How a file is opened for a descriptor. -/
inductive Way where
  | read
  | write
  /-- Even if files are not to be overwritten. -/
  | overwrite
  | append
  | update
  deriving DecidableEq, Repr

mutual

/-- A part of a word. -/
inductive Part where
  | plain (c : Char)
  /-- A character without any special meaning. -/
  | exact (c : Char)
  /-- Where quotes begin or end. -/
  | mark
  /-- The value of a name.  An empty one counts as none if `orEmpty`. -/
  | value (name : String) (rule : Rule) (orEmpty : Bool) (word : List Part)
  /-- What a command writes. -/
  | output (body : Command)
  /-- The value of an expression. -/
  | sum (expression : List Part)

/-- A redirection of a descriptor. -/
inductive Redirect where
  | file (fd : Nat) (way : Way) (name : List Part)
  /-- It leads where another leads, or nowhere. -/
  | copy (fd : Nat) (source : Option Nat)
  | copyNamed (fd : Nat) (name : List Part)
  /-- It leads to a document. -/
  | document (fd number : Nat) (isExact : Bool)

/-- A command. -/
inductive Command where
  | nothing
  | simple (line : Nat) (settings words : List (List Part)) (redirects : List Redirect)
  /-- Each one reads what the one before it writes. -/
  | pipe (parts : List Command) (behind : Bool)
  /-- With success and failure swapped. -/
  | negated (body : Command)
  | redirected (line : Nat) (body : Command) (redirects : List Redirect)
  /-- In a process of its own, waited for unless it is `behind`. -/
  | apart (line : Nat) (body : Command) (redirects : List Redirect) (behind : Bool)
  | sequence (first second : Command)
  /-- The second only if the first succeeds (`wanted`) or fails. -/
  | chain (wanted : Bool) (first second : Command)
  | branch (test yes no : Command)
  /-- Again and again, as long as the test succeeds (`wanted`) or fails. -/
  | loop (wanted : Bool) (test body : Command)
  | each (line : Nat) (name : String) (items : List (List Part)) (body : Command)
  /-- The first of the cases with a pattern that matches the word. -/
  | choice (line : Nat) (word : List Part) (cases : List (List (List Part) × Command))
  /-- A name for a command. -/
  | define (line : Nat) (name : String) (body : Command)

end

instance : Inhabited Part := ⟨.mark⟩
instance : Inhabited Redirect := ⟨.copy 0 none⟩
instance : Inhabited Command := ⟨.nothing⟩

/-- The builtins that are special: what they get wrong ends the script, and no function has their
names. -/
def specialNames : List String :=
  [":", ".", "break", "continue", "eval", "exec", "exit", "export", "readonly", "return", "set",
    "shift", "times", "trap", "unset", "local"]

/-- A word before its values are put in. -/
abbrev Word := List Part

namespace Command

/-- Whether there is nothing to do. -/
def isNothing : Command → Bool
  | nothing => true
  | _ => false

end Command

namespace Word

/-- The text of a word in which every character stands for itself. -/
def plainText? : Word → Option (List Char)
  | [] => some []
  | .plain c :: rest => (plainText? rest).map (c :: ·)
  | _ :: _ => none

/-- The characters of a word, whether they have a special meaning or not. -/
def characters (w : Word) : List Char := w.filterMap fun
  | .plain c | .exact c => some c
  | _ => none

/-- Whether a character can begin a name. -/
def beginsName (c : Char) : Bool := c.isAlpha || c == '_'

/-- Whether a character can stand in a name. -/
def isInName (c : Char) : Bool := c.isAlphanum || c == '_'

/-- Whether characters are a name. -/
def isName (cs : List Char) : Bool := cs.head?.any beginsName && cs.all isInName

/-- Whether what is left of a word ends a name that is set. -/
def settles : Word → Bool
  | .plain c :: rest => c = '=' || (isInName c && settles rest)
  | _ => false

/-- Whether a word sets a variable. -/
def isSetting : Word → Bool
  | .plain c :: rest => beginsName c && settles rest
  | _ => false

end Word

end NestedSession.Rehearsal
