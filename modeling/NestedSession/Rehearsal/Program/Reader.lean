import NestedSession.Rehearsal.Program.Lines

/-!
# Rehearsal/Program/Reader — a file that is read line by line

A reader takes from a file only what it needs for the next line, so a program can end before the
file does.  What it has taken and not given out yet is what it holds.
-/

namespace NestedSession.Rehearsal

/-- A file that is read line by line. -/
structure Reader where
  fd : Nat
  /-- What ends a line. -/
  ending : Char
  /-- What was taken and not given out. -/
  held : List Char
  /-- Whether nothing more comes from the file. -/
  dry : Bool
  /-- Whether a zero was taken. -/
  hasZero : Bool

/-- A line, and whether it was ended. -/
structure Line where
  text : List Char
  ended : Bool

namespace Reader

/-- A reader that has read nothing. -/
def ofDescriptor (fd : Nat) (ending : Char) : Reader := ⟨fd, ending, [], false, false⟩

/-- The first line of what a reader holds, if it is whole. -/
def give? (r : Reader) : Option (Line × Reader) :=
  let text := r.held.takeWhile (· != r.ending)
  match r.held.drop text.length with
  | _ :: rest => some (⟨text, true⟩, { r with held := rest })
  | [] => if r.dry && !text.isEmpty then some (⟨text, false⟩, { r with held := [] }) else none

/-- The next line, if there is one; texts that wait to be written may go before the file is read
again. -/
def nextOn : Nat → Reader → Work (Except Errno (Option Line) × Reader)
  | 0, r => pure (.ok none, r)
  | fuel + 1, r => do
    match r.give? with
    | some (line, r) => pure (.ok (some line), r)
    | none =>
      if r.dry then pure (.ok none, r)
      else
        let waiting := Number.total ((← get).written.map String.length)
        if 4096 ≤ waiting then Work.flush
        match ← Work.ask (Play.read r.fd Play.readSize) with
        | .error e => pure (.error e, { r with dry := true })
        | .ok [] => nextOn fuel { r with dry := true }
        | .ok bs =>
          nextOn fuel { r with
            held := r.held ++ Latin.characters bs, hasZero := r.hasZero || bs.contains 0 }

/-- **The next line**, if there is one. -/
def next (r : Reader) : Work (Except Errno (Option Line) × Reader) := nextOn Play.rounds r

end Reader

/-- Open a file to be read line by line; a hyphen is the input. -/
def Work.readerOf (path : String) (ending : Char) : Work (Except Errno Reader) := do
  if path = "-" then pure (.ok (.ofDescriptor 0 ending))
  else
    match ← Work.openFile path .reading with
    | .ok fd => pure (.ok (.ofDescriptor fd ending))
    | .error e => pure (.error e)

end NestedSession.Rehearsal
