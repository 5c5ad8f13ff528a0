import NestedSession.Stream
import NestedSession.System.Files
import NestedSession.System.Signal

/-!
# Rehearsal/Machine/Basic — files, pipes and the processes that share them

A machine has a tree of files, processes, and what they have open.  Descriptors are a process's own
names for open files; several descriptors, also of several processes, may share one open file with
its position.  A pipe is open to be written as long as some process can write into it.
-/

namespace NestedSession.Rehearsal

/-- Where an open file leads. -/
inductive Channel where
  /-- A node of the tree. -/
  | node (number : Nat)
  /-- One of the ends of a pipe. -/
  | pipe (number : Nat) (writes : Bool)
  deriving DecidableEq, Repr

/-- An open file. -/
structure Opened where
  channel : Channel
  position : Nat
  /-- Whether every write goes to the end. -/
  appends : Bool
  reads : Bool
  writes : Bool
  deriving Repr

/-- What is in a pipe. -/
structure Pipe where
  /-- What is read first. -/
  front : Octets
  /-- What was written after it, the latest first. -/
  back : List Octets
  size : Nat
  /-- The size from which on writers have to wait. -/
  capacity : Nat
  /-- Whose output it is, if it is read from outside the machine. -/
  outside : Option (Pid × Stream)
  deriving Repr

/-- A process. -/
structure Process where
  /-- The process that waits for it: zero is outside the machine, one waits for nothing. -/
  parent : Pid
  group : Pid
  /-- Its descriptors with the numbers of open files. -/
  descriptors : List (Nat × Nat)
  /-- The descriptors that the next program does not get. -/
  reserved : List Nat
  cwd : Place
  /-- The rights withheld from new files. -/
  mask : Nat
  /-- How much it gives way to others. -/
  niceness : Int
  ignored : List Nat
  caught : List Nat
  /-- The signals that came and were caught. -/
  pending : List Nat
  /-- When it wakes. -/
  wakes : Option Nat
  stopped : Bool
  /-- The signals that wait until it goes on. -/
  held : List Nat
  /-- The wait status, once it has ended. -/
  status : Option Int32
  deriving Repr

/-- A machine. -/
structure Machine where
  files : Files
  processes : List (Pid × Process)
  opened : List (Nat × Opened)
  pipes : List (Nat × Pipe)
  /-- The number of the next open file or pipe. -/
  nextNumber : Nat
  nextPid : Pid

/-! ## Exits -/

/-- The wait status of an exit with a code. -/
def exitStatus (code : Nat) : Int32 := Int32.ofNat (code % 256 * 256)

/-- The wait status of an end by a signal. -/
def signalStatus (sig : Nat) : Int32 := Int32.ofNat (sig % 128)

/-- The signal of a wait status, or zero. -/
def signalOf (status : Int32) : Nat := status.toUInt32.toNat % 128

/-- What a script sees of a wait status. -/
def codeOf (status : Int32) : Nat :=
  if signalOf status = 0 then status.toUInt32.toNat / 256 % 256 else 128 + signalOf status

namespace Pipe

/-- An empty pipe of the usual size. -/
def usual : Pipe := ⟨[], [], 0, 65536, none⟩

/-- An empty pipe that is read from outside. -/
def toOutside (pid : Pid) (s : Stream) : Pipe := { usual with outside := some (pid, s) }

/-- A pipe from which all was read. -/
def emptied (p : Pipe) : Pipe := { p with front := [], back := [], size := 0 }

/-- Put octets back into a pipe, before all that is in it. -/
def putBack (p : Pipe) (bs : Octets) : Pipe :=
  { p with front := bs ++ p.front, size := bs.length + p.size }

/-- All that is in a pipe. -/
def content (p : Pipe) : Octets :=
  if p.back.isEmpty then p.front else p.front ++ p.back.reverse.flatten

/-- Put octets into a pipe. -/
def push (p : Pipe) (bs : Octets) : Pipe :=
  { p with back := bs :: p.back, size := p.size + bs.length }

/-- Take at most so many octets from a pipe. -/
def pull (p : Pipe) (count : Nat) : Octets × Pipe :=
  let content := p.content
  (content.take count,
    { p with front := content.drop count, back := [], size := p.size - min count p.size })

end Pipe

namespace Machine

/-! ## Processes and what they have open -/

/-- A process by its number. -/
def process? (m : Machine) (pid : Pid) : Option Process := m.processes.lookup pid

/-- Whether a process is there and has not ended. -/
def isAlive (m : Machine) (pid : Pid) : Bool := (m.process? pid).any (·.status.isNone)

/-- Change a process. -/
def alter (m : Machine) (pid : Pid) (f : Process → Process) : Machine :=
  { m with processes := m.processes.map fun (n, p) => if n = pid then (n, f p) else (n, p) }

/-- The directory a process is in. -/
def cwd (m : Machine) (pid : Pid) : Place := ((m.process? pid).map (·.cwd)).getD []

/-- The open file of a descriptor, with its number. -/
def opened? (m : Machine) (pid : Pid) (fd : Nat) : Option (Nat × Opened) :=
  ((m.process? pid).bind fun p => p.descriptors.lookup fd).bind fun number =>
    (m.opened.lookup number).map fun o => (number, o)

/-- Change an open file. -/
def alterOpened (m : Machine) (number : Nat) (f : Opened → Opened) : Machine :=
  { m with opened := m.opened.map fun (n, o) => if n = number then (n, f o) else (n, o) }

/-- Change a pipe. -/
def alterPipe (m : Machine) (number : Nat) (f : Pipe → Pipe) : Machine :=
  { m with pipes := m.pipes.map fun (n, p) => if n = number then (n, f p) else (n, p) }

/-- **Forget what nobody has open.** -/
def tidy (m : Machine) : Machine :=
  let held := m.processes.flatMap fun (_, p) => p.descriptors.map (·.2)
  let opened := m.opened.filter fun (n, _) => held.contains n
  let pipes := m.pipes.filter fun (n, p) =>
    p.outside.isSome || opened.any fun (_, o) =>
      o.channel == .pipe n true || o.channel == .pipe n false
  { m with opened, pipes }

/-- Whether some process has an end of a pipe. -/
def hasEnd (m : Machine) (number : Nat) (writes : Bool) : Bool :=
  m.opened.any fun (_, o) => o.channel == .pipe number writes

/-- The first free descriptor from a number on. -/
def freeFrom (descriptors : List (Nat × Nat)) : Nat → Nat → Nat
  | 0, least => least
  | fuel + 1, least =>
    if descriptors.any (·.1 == least) then freeFrom descriptors fuel (least + 1) else least

/-- The first free descriptor of a process from a number on. -/
def freeDescriptor (m : Machine) (pid : Pid) (least : Nat) : Nat :=
  match m.process? pid with
  | some p => freeFrom p.descriptors (p.descriptors.length + 1) least
  | none => least

/-- Let a descriptor of a process lead to an open file. -/
def lead (m : Machine) (pid : Pid) (fd number : Nat) : Machine :=
  tidy <| m.alter pid fun p =>
    { p with
      descriptors := (fd, number) :: p.descriptors.filter (·.1 != fd)
      reserved := p.reserved.filter (· != fd) }

/-- Open a file under the first free descriptor. -/
def install (m : Machine) (pid : Pid) (o : Opened) : Nat × Machine :=
  let fd := m.freeDescriptor pid 0
  let number := m.nextNumber
  let m := { m with opened := (number, o) :: m.opened, nextNumber := number + 1 }
  (fd, m.lead pid fd number)

/-- Close a descriptor. -/
def close (m : Machine) (pid : Pid) (fd : Nat) : Machine :=
  tidy <| m.alter pid fun p =>
    { p with
      descriptors := p.descriptors.filter (·.1 != fd)
      reserved := p.reserved.filter (· != fd) }

/-- **Let a descriptor lead where another leads.** -/
def copy (m : Machine) (pid : Pid) (old new : Nat) : Except Errno Unit × Machine :=
  match m.opened? pid old with
  | none => (.error .badDescriptor, m)
  | some (number, _) => (.ok (), if old = new then m else m.lead pid new number)

/-- The first of the descriptors that processes keep for themselves. -/
def firstReserved : Nat := 10

/-- Keep a second descriptor for an open file, which the next program does not get. -/
def reserve (m : Machine) (pid : Pid) (fd : Nat) : Option Nat × Machine :=
  match m.opened? pid fd with
  | none => (none, m)
  | some (number, _) =>
    let spare := m.freeDescriptor pid firstReserved
    (some spare, (m.lead pid spare number).alter pid fun p =>
      { p with reserved := spare :: p.reserved })

/-- A new pipe: the descriptors of the end that is read and of the other. -/
def makePipe (m : Machine) (pid : Pid) : (Nat × Nat) × Machine :=
  let number := m.nextNumber
  let m := { m with pipes := (number, .usual) :: m.pipes, nextNumber := number + 1 }
  let opened (writes : Bool) : Opened := ⟨.pipe number writes, 0, false, !writes, writes⟩
  let (out, m) := m.install pid (opened false)
  let (into, m) := m.install pid (opened true)
  ((out, into), m)

/-- What a process becomes when it begins another program. -/
def renew (m : Machine) (pid : Pid) : Machine :=
  tidy <| m.alter pid fun p =>
    { p with
      descriptors := p.descriptors.filter fun (fd, _) => !p.reserved.contains fd
      reserved := []
      caught := []
      pending := [] }

end Machine

end NestedSession.Rehearsal
