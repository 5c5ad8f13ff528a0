import NestedSession.Rehearsal.Machine.Transfer

/-!
# Rehearsal/Role — what a process still has to do

A role is the rest of a process's life: it is over, or it asks the machine for something and goes
on with the answer, or it starts another process.  A `Play` is a part of a role that ends in a
value; what comes after it is left open.
-/

namespace NestedSession.Rehearsal

/-- What a process still has to do. -/
inductive Role where
  /-- Nothing; it ends with a code. -/
  | done (code : Nat)
  /-- It asks the machine for something, or waits if there is no answer yet. -/
  | act (ask : Pid → Machine → Option (Machine × Role))
  /-- It starts another process and is told its number. -/
  | fork (child : Role) (rest : Pid → Role)

instance : Inhabited Role := ⟨.done 0⟩

/-- **A part of a role** that ends in a value. -/
def Play (α : Type) : Type := (α → Role) → Role

namespace Play

instance : Monad Play where
  pure a := fun next => next a
  bind play rest := fun next => play fun a => rest a next

/-- Ask the machine for something, or wait. -/
def await {α : Type} (ask : Pid → Machine → Option (α × Machine)) : Play α := fun next =>
  .act fun pid m => (ask pid m).map fun (a, m) => (m, next a)

/-- Ask the machine for something. -/
def call {α : Type} (ask : Pid → Machine → α × Machine) : Play α := fun next =>
  .act fun pid m => let (a, m) := ask pid m; some (m, next a)

/-- Look at the machine. -/
def look {α : Type} (view : Pid → Machine → α) : Play α := call fun pid m => (view pid m, m)

/-- Change the machine. -/
def change (f : Pid → Machine → Machine) : Play Unit := call fun pid m => ((), f pid m)

/-- Let the others go on. -/
def breathe : Play Unit := call fun _ m => ((), m)

/-- End the process. -/
def exit {α : Type} (code : Nat) : Play α := fun _ => .done code

/-- Start a process. -/
def fork (child : Play Nat) : Play Pid := fun next =>
  .fork (child .done) next

/-- The most rounds of a loop that ends when there is no more to read. -/
def rounds : Nat := 1000000000

/-- The number of octets that programs read at once. -/
def readSize : Nat := 65536

/-- Read at most so many octets. -/
def read (fd count : Nat) : Play (Except Errno Octets) :=
  await fun pid m => m.read pid fd count

/-- Read on to the end; what was read before comes first. -/
def readOn (fd : Nat) : Nat → List Octets → Play (Except Errno Octets)
  | 0, got => pure (.ok got.reverse.flatten)
  | rounds + 1, got => do
    match ← read fd readSize with
    | .error e => pure (.error e)
    | .ok [] => pure (.ok got.reverse.flatten)
    | .ok bs => readOn fd rounds (bs :: got)

/-- **Read to the end.** -/
def readAll (fd : Nat) : Play (Except Errno Octets) := readOn fd rounds []

/-- Write octets, so many at once. -/
def writeOn (fd : Nat) : Nat → Octets → Play (Except Errno Unit)
  | 0, _ => pure (.ok ())
  | rounds + 1, bs => do
    match ← await fun pid m => m.write pid fd (bs.take readSize) with
    | .error e => pure (.error e)
    | .ok () =>
      let rest := bs.drop readSize
      if rest.isEmpty then pure (.ok ()) else writeOn fd rounds rest

/-- **Write octets.** -/
def write (fd : Nat) (bs : Octets) : Play (Except Errno Unit) :=
  if bs.isEmpty then pure (.ok ()) else writeOn fd rounds bs

/-- Change the files, seen from the directory of the process. -/
def file {α : Type} (f : Files → Place → Nat → Except Errno (α × Files)) :
    Play (Except Errno α) := call fun pid m =>
  let mask := ((m.process? pid).map (·.mask)).getD 0
  match f m.files (m.cwd pid) mask with
  | .ok (a, files) => (.ok a, { m with files := files })
  | .error e => (.error e, m)

/-- Look at the files from the directory of the process. -/
def view {α : Type} (f : Files → Place → α) : Play α := look fun pid m => f m.files (m.cwd pid)

/-- The time. -/
def now : Play Nat := look fun _ m => m.files.clock

/-- **Sleep until a time.** -/
def sleepTill (time : Nat) : Play Unit := do
  change fun pid m => m.alter pid fun p => { p with wakes := some time }
  await fun pid m =>
    if time ≤ m.files.clock then some ((), m.alter pid fun p => { p with wakes := none })
    else none

end Play

end NestedSession.Rehearsal
