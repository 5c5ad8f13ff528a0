import NestedSession.Rehearsal.Machine.Signals

/-!
# Rehearsal/Machine/Transfer — opening, reading and writing

Reads and writes answer `none` if the process has to wait: a reader of an empty pipe that someone
can still write into, and a writer of a full one.  A writer whom nobody reads is struck by a signal.
-/

namespace NestedSession.Rehearsal

/-- How a file is opened. -/
structure Access where
  reads : Bool
  writes : Bool
  appends : Bool := false
  /-- It is made if there is none. -/
  creates : Bool := false
  /-- What it holds is thrown away. -/
  empties : Bool := false
  /-- There must be none. -/
  fresh : Bool := false
  deriving DecidableEq, Repr

namespace Access

/-- To be read. -/
def reading : Access := { reads := true, writes := false }

/-- To be written anew. -/
def replacing : Access := { reads := false, writes := true, creates := true, empties := true }

/-- To be written at its end. -/
def appending : Access := { reads := false, writes := true, creates := true, appends := true }

/-- To be read and written. -/
def updating : Access := { reads := true, writes := true, creates := true }

end Access

namespace Machine

/-- The node of a path to be opened, made if need be. -/
def nodeToOpen (m : Machine) (pid : Pid) (p : Path) (access : Access) :
    Except Errno (Nat × Machine) := do
  let process := m.process? pid
  let cwd := m.cwd pid
  if access.creates then
    if access.fresh && ((m.files.find cwd p).toOption).isSome then .error .exists_
    else
      let (files, number) ← m.files.reach cwd p ((process.map (·.mask)).getD 0)
      .ok (number, { m with files := files })
  else
    match m.files.number? (← m.files.place? cwd p) with
    | some number => .ok (number, m)
    | none => .error .noEntry

/-- **Open a file** under the first free descriptor. -/
def openFile (m : Machine) (pid : Pid) (p : Path) (access : Access) :
    Except Errno Nat × Machine :=
  match m.nodeToOpen pid p access with
  | .error e => (.error e, m)
  | .ok (number, m) =>
    let lead (m : Machine) (channel : Channel) : Except Errno Nat × Machine :=
      let (fd, m) :=
        m.install pid ⟨channel, 0, access.appends, access.reads, access.writes⟩
      (.ok fd, m)
    let emptied (m : Machine) (number : Nat) : Machine :=
      if access.empties then { m with files := m.files.setContent number (.plain []) } else m
    match (m.files.node? number).elim .directory (·.content) with
    | .plain _ => lead (emptied m number) (.node number)
    | .directory => if access.writes then (.error .isDirectory, m) else lead m (.node number)
    | .link _ => (.error .linkLoop, m)
    | .device (.descriptor n) =>
      match m.opened? pid n with
      | none => (.error .noEntry, m)
      | some (_, o) =>
        match o.channel with
        | .node number => lead (emptied m number) (.node number)
        | channel => lead m channel
    | .device _ => lead m (.node number)

/-- **Read at most so many octets**; none are left at the end. -/
def read (m : Machine) (pid : Pid) (fd count : Nat) : Option (Except Errno Octets × Machine) :=
  match m.opened? pid fd with
  | none => some (.error .badDescriptor, m)
  | some (number, o) =>
    if !o.reads then some (.error .badDescriptor, m)
    else match o.channel with
      | .pipe n _ =>
        match m.pipes.lookup n with
        | none => some (.ok [], m)
        | some pipe =>
          if pipe.size = 0 then
            if m.hasEnd n true then none else some (.ok [], m)
          else
            let (bs, _) := pipe.pull count
            some (.ok bs, m.alterPipe n fun pipe => (pipe.pull count).2)
      | .node n =>
        match (m.files.node? n).elim .directory (·.content) with
        | .plain bs =>
          let got := (bs.drop o.position).take count
          some (.ok got, m.alterOpened number fun o =>
            { o with position := o.position + got.length })
        | .directory => some (.error .isDirectory, m)
        | .link _ => some (.error .invalid, m)
        | .device .null => some (.ok [], m)
        | .device _ => some (.ok (List.replicate count 0), m)

/-- **Read a line** with its end, or what there is before the end. -/
def readLine (m : Machine) (pid : Pid) (fd : Nat) : Option (Except Errno Octets × Machine) :=
  let lineOf (bs : Octets) : Option Nat :=
    let count := (bs.takeWhile (· != 0x0A)).length
    if (bs.drop count).isEmpty then none else some (count + 1)
  match m.opened? pid fd with
  | some (_, ⟨.pipe n _, _, _, true, _⟩) =>
    match m.pipes.lookup n with
    | none => some (.ok [], m)
    | some pipe =>
      match lineOf pipe.content with
      | some count => m.read pid fd count
      | none =>
        if m.hasEnd n true && pipe.size < pipe.capacity then none else m.read pid fd pipe.size
  | some (_, ⟨.node n, position, _, true, _⟩) =>
    match (m.files.node? n).elim .directory (·.content) with
    | .plain bs =>
      let rest := bs.drop position
      match lineOf rest with
      | some count => m.read pid fd count
      | none => m.read pid fd rest.length
    | _ => m.read pid fd 0
  | _ => m.read pid fd 0

/-- Open a pipe that holds some octets and into which nobody can write. -/
def openDocument (m : Machine) (pid : Pid) (bs : Octets) : Nat × Machine :=
  let number := m.nextNumber
  let pipe : Pipe := { Pipe.usual with front := bs, size := bs.length }
  let m := { m with pipes := (number, pipe) :: m.pipes, nextNumber := number + 1 }
  m.install pid ⟨.pipe number false, 0, false, true, false⟩

/-- Octets with others written into them from a position on. -/
def spliced (old : Octets) (position : Nat) (bs : Octets) : Octets :=
  if old.length = position then old ++ bs
  else
    old.take position ++ List.replicate (position - old.length) 0 ++ bs
      ++ old.drop (position + bs.length)

/-- **Write octets.** -/
def write (m : Machine) (pid : Pid) (fd : Nat) (bs : Octets) :
    Option (Except Errno Unit × Machine) :=
  match m.opened? pid fd with
  | none => some (.error .badDescriptor, m)
  | some (number, o) =>
    if !o.writes then some (.error .badDescriptor, m)
    else match o.channel with
      | .pipe n _ =>
        match m.pipes.lookup n with
        | none => some (.error .brokenPipe, m)
        | some pipe =>
          if pipe.outside.isNone && !m.hasEnd n false then
            some (.error .brokenPipe, m.send pid Signal.pipe.number)
          else if pipe.capacity ≤ pipe.size then none
          else some (.ok (), m.alterPipe n fun pipe => pipe.push bs)
      | .node n =>
        match (m.files.node? n).elim .directory (·.content) with
        | .plain old =>
          let position := if o.appends then old.length else o.position
          let m := { m with files := m.files.setContent n (.plain (spliced old position bs)) }
          some (.ok (), m.alterOpened number fun o =>
            { o with position := position + bs.length })
        | .device .full => some (.error .noSpace, m)
        | .device _ => some (.ok (), m)
        | _ => some (.error .badDescriptor, m)

end Machine

end NestedSession.Rehearsal
