import NestedSession.Rehearsal.Program.Finding
import NestedSession.Rehearsal.Script.Jobs

/-!
# Rehearsal/Program/Work — what programs have in common

A program writes its output when it is done, says at once what is wrong, and ends with a code.  A
name in a message stands in quotes, in such a way that a script could read it.
-/

namespace NestedSession.Rehearsal

/-! ## Names in messages -/

namespace Program

/-- Whether a character makes quotes necessary. -/
def needsQuotes (c : Char) : Bool :=
  " !\"$&()*;<=>?[^`|'\\".toList.contains c || c.toNat < 32 || 127 ≤ c.toNat

/-- A character that cannot stand within quotes. -/
def spelled? (c : Char) : Option String :=
  match [('\t', "\\t"), ('\n', "\\n"), ('\r', "\\r"), ('\x07', "\\a"), ('\x08', "\\b"),
    ('\x0b', "\\v"), ('\x0c', "\\f")].lookup c with
  | some t => some t
  | none =>
    if c.toNat < 32 || 127 ≤ c.toNat then
      let ds := Nat.toDigits 8 c.toNat
      some ("\\" ++ String.ofList (List.replicate (3 - ds.length) '0' ++ ds))
    else none

/-- The inside of quotes; what cannot stand there stands between two of them. -/
def quotedInside (isOpen : Bool) : List Char → String
  | [] => if isOpen then "'" else ""
  | c :: cs =>
    match spelled? c with
    | some t => (if isOpen then "'" else "") ++ "$'" ++ t ++ "'" ++ quotedInside false cs
    | none =>
      (if isOpen then "" else "'")
        ++ (if c = '\'' then "'\\''" else String.singleton c) ++ quotedInside true cs

/-- **A name in quotes.** -/
def quoted (t : String) : String :=
  let cs := t.toList
  if cs.contains '\'' && !(cs.any fun c => "\"$`\\!".toList.contains c || (spelled? c).isSome) then
    "\"" ++ t ++ "\""
  else "'" ++ quotedInside true cs

/-- A name, in quotes if it needs them. -/
def shown (t : String) : String :=
  let cs := t.toList
  let first := cs.head?.any fun c => c = '#' || c = '~'
  if cs.isEmpty || first || cs.any needsQuotes then quoted t else t

end Program

/-! ## Work -/

/-- What a program has before it. -/
structure Desk where
  call : Call
  /-- What it is going to write, the latest first. -/
  written : List String
  /-- The code it is going to end with. -/
  code : Nat
  /-- The code it ends with if what it has written cannot be written. -/
  lost : Nat

/-- **A part of what a program does.** -/
abbrev Work (α : Type) : Type := StateT Desk Play α

/-- Why a file could not be read. -/
inductive Trouble where
  | opening (e : Errno)
  | reading (e : Errno)

/-- The fault. -/
def Trouble.errno : Trouble → Errno
  | opening e | reading e => e

namespace Work

/-- Let the machine do something. -/
def ask {α : Type} (play : Play α) : Work α := StateT.lift play

/-- The name of the program. -/
def name : Work String := do
  pure (← get).call.name

/-- Write a text when the program is over. -/
def print (t : String) : Work Unit := modify fun d => { d with written := t :: d.written }

/-- Write a text and a break. -/
def printLine (t : String) : Work Unit := do
  print t
  print "\n"

/-- Write to the other output at once. -/
def say (t : String) : Work Unit := do
  let _ ← ask (Play.write 2 (Latin.octets t))

/-- End with a code other than zero, if nothing else did so before. -/
def blame (code : Nat) : Work Unit := modify fun d =>
  { d with code := if d.code = 0 then code else d.code }

/-- Set the code to end with if nothing can be written. -/
def dread (code : Nat) : Work Unit := modify fun d => { d with lost := code }

/-- **Say what is wrong**, and end with one. -/
def complain (t : String) : Work Unit := do
  say ((← name) ++ ": " ++ t ++ "\n")
  blame 1

/-- Write what there is to write. -/
def flush : Work Unit := do
  let d ← get
  if !d.written.isEmpty then
    set { d with written := [] }
    match ← ask (Play.write 1 (d.written.reverse.flatMap Latin.octets)) with
    | .ok () => pure ()
    | .error e =>
      complain ("write error: " ++ e.text)
      ask (Play.exit d.lost)

/-- End the program. -/
def leave {α : Type} (code : Nat) : Work α := do
  flush
  ask (Play.exit code)

/-- **Say what is wrong and end.** -/
def fail {α : Type} (t : String) (code : Nat := 1) : Work α := do
  complain t
  leave code

/-- Say where help is to be had, and end. -/
def referToHelp {α : Type} (code : Nat := 1) : Work α := do
  say ("Try '" ++ (← name) ++ " --help' for more information.\n")
  leave code

/-- Say what is wrong with the words, and end. -/
def misuse {α : Type} (t : String) (code : Nat := 1) : Work α := do
  complain t
  referToHelp code

/-- Play a program: what it has written comes before its code. -/
def toPlay (work : Work Unit) (c : Call) : Play Nat := do
  let (_, d) ← (do
    work
    flush).run ⟨c, [], 0, 1⟩
  pure d.code

/-! ## Files -/

/-- Look at the files. -/
def view {α : Type} (f : Files → Place → α) : Work α := ask (Play.view f)

/-- Change the files. -/
def change {α : Type} (f : Files → Place → Nat → Except Errno (α × Files)) :
    Work (Except Errno α) := ask (Play.file f)

/-- Open a file. -/
def openFile (path : String) (access : Access) : Work (Except Errno Nat) :=
  ask (Play.call fun pid m => m.openFile pid (Latin.octets path) access)

/-- Close a descriptor. -/
def close (fd : Nat) : Work Unit := ask (Play.change fun pid m => m.close pid fd)

/-- **Read a file**; a hyphen is the input. -/
def contentOf (path : String) : Work (Except Trouble Octets) := do
  if path = "-" then
    match ← ask (Play.readAll 0) with
    | .ok bs => pure (.ok bs)
    | .error e => pure (.error (.reading e))
  else
    match ← openFile path .reading with
    | .error e => pure (.error (.opening e))
    | .ok fd =>
      let read ← ask (Play.readAll fd)
      close fd
      match read with
      | .ok bs => pure (.ok bs)
      | .error e => pure (.error (.reading e))

/-- Read a file as a text, or say that it cannot be read. -/
def textOf? (path : String) : Work (Option String) := do
  match ← contentOf path with
  | .ok bs => pure (some (Latin.text bs))
  | .error t =>
    complain (Program.shown path ++ ": " ++ t.errno.text)
    pure none

/-- The files to be read: the input if none are named. -/
def sources (words : List String) : List String := if words.isEmpty then ["-"] else words

/-! ## Switches -/

/-- Whether a switch takes a value. -/
inductive Takes where
  | nothing
  | value
  /-- A long switch with a value behind a sign, or none. -/
  | maybe
  deriving DecidableEq, Repr

/-- The switches of a program. -/
structure Switches where
  /-- The letters of switches without a value. -/
  plain : String := ""
  /-- The letters of switches with a value. -/
  valued : String := ""
  /-- The letters of switches whose value, if they have one, stands in the same word. -/
  attached : String := ""
  /-- Long names, each with the letter it stands for. -/
  long : List (String × Char × Takes) := []
  /-- Whether the first word that is no switch ends them. -/
  inOrder : Bool := false

/-- Switches with their values, and the other words. -/
abbrev Switched := List (Char × String) × List String

namespace Switches

/-- The switches of one word of letters; some letter may need the next word. -/
def letters (s : Switches) : List Char → List (Char × String) →
    Except String (List (Char × String) × Option Char)
  | [], got => .ok (got, none)
  | c :: rest, got =>
    if s.valued.toList.contains c then
      if rest.isEmpty then .ok (got, some c) else .ok ((c, String.ofList rest) :: got, none)
    else if s.attached.toList.contains c then .ok ((c, String.ofList rest) :: got, none)
    else if s.plain.toList.contains c then s.letters rest ((c, "") :: got)
    else .error ("invalid option -- '" ++ String.singleton c ++ "'")

/-- The long switch that a name or the beginning of one means. -/
def long? (s : Switches) (name : String) : Except String (String × Char × Takes) :=
  match s.long.find? (·.1 == name) with
  | some found => .ok found
  | none =>
    match s.long.filter fun l => name.toList.isPrefixOf l.1.toList with
    | [found] => .ok found
    | [] => .error ("unrecognized option '--" ++ name ++ "'")
    | found :: more =>
      if more.all fun l => l.2 == found.2 then .ok found
      else
        let names := (found :: more).map fun l => " '--" ++ l.1 ++ "'"
        .error ("option '--" ++ name ++ "' is ambiguous; possibilities:" ++ String.join names)

/-- Read a long switch, with the words behind it. -/
def readLong (s : Switches) (cs : List Char) (rest : List String) :
    Except String ((Char × String) × List String) := do
  let name := cs.takeWhile (· != '=')
  let value? := if name.length < cs.length then
    some (String.ofList (cs.drop (name.length + 1))) else none
  let (full, c, takes) ← s.long? (String.ofList name)
  match takes, value? with
  | .nothing, some _ => .error ("option '--" ++ full ++ "' doesn't allow an argument")
  | _, some value => .ok ((c, value), rest)
  | .value, none =>
    match rest with
    | value :: rest => .ok ((c, value), rest)
    | [] => .error ("option '--" ++ full ++ "' requires an argument")
  | _, none => .ok ((c, ""), rest)

/-- Read the switches among words. -/
def readOn (s : Switches) : Nat → List String → List (Char × String) → List String →
    Except String Switched
  | 0, rest, got, others => .ok (got.reverse, others.reverse ++ rest)
  | _, [], got, others => .ok (got.reverse, others.reverse)
  | fuel + 1, word :: rest, got, others =>
    match word.toList with
    | ['-', '-'] => .ok (got.reverse, others.reverse ++ rest)
    | '-' :: '-' :: cs => do
      let (one, rest) ← s.readLong cs rest
      s.readOn fuel rest (one :: got) others
    | '-' :: c :: cs => do
      match ← s.letters (c :: cs) got with
      | (got, none) => s.readOn fuel rest got others
      | (got, some c) =>
        match rest with
        | value :: rest => s.readOn fuel rest ((c, value) :: got) others
        | [] => .error ("option requires an argument -- '" ++ String.singleton c ++ "'")
    | _ =>
      if s.inOrder then .ok (got.reverse, others.reverse ++ word :: rest)
      else s.readOn fuel rest got (word :: others)

/-- **Read the switches among words.** -/
def read (s : Switches) (words : List String) : Except String Switched :=
  s.readOn (words.length + 1) words [] []

end Switches

/-- The switches of the program, and its other words. -/
def switches (s : Switches) (code : Nat := 1) : Work Switched := do
  match s.read (← get).call.arguments with
  | .ok found => pure found
  | .error why => misuse why code

/-- Whether a switch was given. -/
def Switched.has (s : Switched) (c : Char) : Bool := s.1.any (·.1 == c)

/-- The last value of a switch. -/
def Switched.get? (s : Switched) (c : Char) : Option String :=
  ((s.1.filter (·.1 == c)).getLast?).map (·.2)

/-- The last of some switches that was given. -/
def Switched.last? (s : Switched) (cs : String) : Option Char :=
  ((s.1.filter fun e => cs.toList.contains e.1).getLast?).map (·.1)

/-- The words that are no switches. -/
def Switched.words (s : Switched) : List String := s.2

end Work

end NestedSession.Rehearsal
