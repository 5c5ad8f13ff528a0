import NestedSession.Rehearsal.Script.Command

/-!
# Rehearsal/Script/Input — the characters of a script

A reader goes through a script character by character.  Where a word is an alias, what the alias
stands for is read first; a break behind a backslash joins two lines.  What is wrong with a script
is a text and a line (`SyntaxFault`).
-/

namespace NestedSession.Rehearsal.Script

/-- The smallest things a script consists of, words apart. -/
inductive Token where
  | endOfFile
  | newline
  | redirect
  | word
  /-- A sign or a keyword. -/
  | sign (text : String)
  deriving DecidableEq, Repr

/-- What a message calls a token. -/
def Token.name : Token → String
  | endOfFile => "end of file"
  | newline => "newline"
  | redirect => "redirection"
  | word => "word"
  | sign text => "\"" ++ text ++ "\""

/-- Whether a token ends a list of commands. -/
def Token.endsList : Token → Bool
  | endOfFile => true
  | sign text =>
    [")", ";;", "do", "done", "elif", "else", "esac", "fi", "then", "\x7d"].contains text
  | _ => false

/-- What is wrong with a script. -/
structure SyntaxFault where
  line : Nat
  text : String
  deriving DecidableEq, Repr

/-- A document that is still to be read. -/
structure Awaited where
  number : Nat
  /-- The line that ends it. -/
  ending : List Char
  /-- Whether its text stands for itself. -/
  isExact : Bool
  /-- Whether leading tabs are left out. -/
  strips : Bool

/-- What the next token may be. -/
structure Looks where
  keyword : Bool := false
  replaced : Bool := false
  /-- Breaks are passed over. -/
  breaks : Bool := false
  /-- The word ends a document. -/
  ending : Bool := false
  deriving DecidableEq, Repr

/-- The state of reading a script. -/
structure Reader where
  rest : List Char
  /-- The aliases that are being read, with what comes after each. -/
  within : List (String × List Char)
  /-- The character before. -/
  last : Char
  line : Nat
  token : Token
  /-- Whether the token is to be read again. -/
  again : Bool
  looks : Looks
  word : Word
  isQuoted : Bool
  redirect : Redirect
  awaited : List Awaited
  /-- The documents that were read. -/
  documents : Array Word
  aliases : List (String × String)

namespace Reader

/-- A reader at the beginning of a script. -/
def ofText (text : List Char) (line : Nat) (documents : Array Word)
    (aliases : List (String × String)) : Reader :=
  { rest := text, within := [], last := '\n', line, token := .newline, again := false
    looks := {}, word := [], isQuoted := false, redirect := default, awaited := []
    documents, aliases }

/-- How much of the script is left. -/
def left (r : Reader) : Nat :=
  match r.within.getLast? with
  | some (_, rest) => rest.length
  | none => r.rest.length

end Reader

/-- A step of reading. -/
abbrev Read (α : Type) : Type := StateT Reader (Except SyntaxFault) α

/-- The most rounds of a loop over a script. -/
def rounds : Nat := 100000000

namespace Read

/-- **Give up**, at the line that is being read. -/
def fail {α : Type} (text : String) : Read α := do
  throw ⟨(← get).line, text⟩

/-- The next character.  An alias that ends in a blank lets the next word be one too. -/
def nextFrom : Nat → Read (Option Char)
  | 0 => pure none
  | fuel + 1 => do
    let r ← get
    match r.rest, r.within with
    | c :: rest, _ =>
      set { r with rest, last := c }
      pure (some c)
    | [], (_, rest) :: within =>
      let isBlank := r.last = ' ' || r.last = '\t'
      let looks := if isBlank then { r.looks with replaced := true } else r.looks
      set { r with rest, within, looks }
      nextFrom fuel
    | [], [] => pure none

/-- The next character. -/
def next : Read (Option Char) := nextFrom rounds

/-- Put a character back. -/
def back (c : Option Char) : Read Unit := modify fun r =>
  match c with
  | some c => { r with rest := c :: r.rest }
  | none => r

/-- Count a line. -/
def countLine : Read Unit := modify fun r => { r with line := r.line + 1 }

/-- The next character after joined lines. -/
def joinedFrom : Nat → Read (Option Char)
  | 0 => pure none
  | fuel + 1 => do
    match ← next with
    | some '\\' =>
      match ← next with
      | some '\n' =>
        countLine
        joinedFrom fuel
      | c =>
        back c
        pure (some '\\')
    | c => pure c

/-- **The next character**, with lines joined that a backslash joins. -/
def joined : Read (Option Char) := joinedFrom rounds

/-- Say what the next token may be. -/
def look (looks : Looks) : Read Unit := modify fun r => { r with looks }

/-- Read the token again. -/
def again : Read Unit := modify fun r => { r with again := true }

end Read

end NestedSession.Rehearsal.Script
