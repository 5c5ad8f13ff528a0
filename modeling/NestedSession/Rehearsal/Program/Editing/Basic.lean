import NestedSession.Rehearsal.Program.Regex.Reading

/-!
# Rehearsal/Program/Editing/Basic — scripts that edit lines

A script is a row of steps, each with the lines it is for.  It is gone through for every line.  The
line at work can be changed, and another text is held beside it.
-/

namespace NestedSession.Rehearsal.Editing

/-- What a line may be chosen by. -/
inductive Address where
  | line (n : Nat)
  /-- Every so many lines from one on. -/
  | every (first step : Nat)
  | last
  /-- The lines in which an expression matches; the last one that was used, if none is given. -/
  | having (r : Option Regex)

/-- Where a range of lines ends. -/
inductive Until where
  | address (a : Address)
  /-- So many lines after its first. -/
  | more (n : Nat)
  /-- At a line whose number is a multiple. -/
  | multiple (n : Nat)

/-- The lines that a step is for. -/
inductive Selector where
  | all
  | one (a : Address)
  | range (a : Address) (b : Until)
  /-- From the beginning on; the first line may be the last. -/
  | fromStart (b : Until)

/-- A part of what is put in the place of a match. -/
inductive Piece where
  | text (cs : List Char)
  | group (n : Nat)
  /-- What follows is written in other letters. -/
  | shape (c : Char)

/-- What is done about matches. -/
structure Substitution where
  pattern : Option Regex
  pieces : List Piece
  /-- The first match that is replaced. -/
  number : Nat
  /-- Whether those after it are replaced too. -/
  everywhere : Bool
  prints : Bool
  file : Option String

/-- When a branch is taken. -/
inductive When where
  | always
  /-- Something was replaced since the last line, or nothing was. -/
  | replaced (wanted : Bool)

/-- What a step does. -/
inductive Action where
  | open_
  | close
  | label (name : String)
  | branch (when : When) (label : String)
  | before (text : List Char)
  | behind (text : List Char)
  | change (text : List Char)
  | delete
  | deleteFirst
  | print
  | printFirst
  | number
  | fileName
  | show_
  | get_
  | getMore
  | hold
  | holdMore
  | exchange
  | empty
  | next
  | nextMore
  | quit (silent : Bool) (code : Nat)
  | substitute (s : Substitution)
  | translate (pairs : List (Char × Char))
  | read (path : String)
  | write (path : String) (first : Bool)

/-- A step of a script. -/
structure Step where
  selector : Selector
  negated : Bool
  action : Action

/-- **A script.** -/
structure Script where
  steps : Array Step
  /-- Whether lines are not shown of their own. -/
  silent : Bool

namespace Script

/-- The step at which a label stands. -/
def labelled? (s : Script) (name : String) : Option Nat :=
  s.steps.findIdx? fun step =>
    match step.action with
    | .label n => n = name
    | _ => false

/-- The step that closes what was opened before some steps. -/
def closing : List Step → Nat → Nat → Nat
  | [], _, i => i
  | step :: rest, depth, i =>
    match step.action with
    | .open_ => closing rest (depth + 1) (i + 1)
    | .close => if depth = 0 then i else closing rest (depth - 1) (i + 1)
    | _ => closing rest depth (i + 1)

/-- The step that closes what a step opens. -/
def closeOf (s : Script) (i : Nat) : Nat := closing (s.steps.toList.drop (i + 1)) 0 (i + 1)

/-- The files that a script writes to. -/
def files (s : Script) : List String := s.steps.toList.filterMap fun step =>
  match step.action with
  | .write path _ => some path
  | .substitute s => s.file
  | _ => none

end Script

end NestedSession.Rehearsal.Editing
