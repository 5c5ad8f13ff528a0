import NestedSession.Rehearsal.Program.Editing.Playing
import NestedSession.Rehearsal.Program.Facts
import NestedSession.Rehearsal.Program.Filters
import NestedSession.Rehearsal.Program.Letters
import NestedSession.Rehearsal.Program.Ordering
import NestedSession.Rehearsal.Program.Search
import NestedSession.Rehearsal.Program.Sums
import NestedSession.Rehearsal.Program.Trees.Making
import NestedSession.Rehearsal.Program.Trees.Moving
import NestedSession.Rehearsal.Program.Trees.Walking
import NestedSession.Rehearsal.Script.Starting

/-!
# Rehearsal/Program/Table — the programs by their names, and the company that plays them
-/

namespace NestedSession.Rehearsal

namespace Program

/-- Nothing but a code. -/
def only (code : Nat) : Work Unit := Work.blame code

/-- **The programs by their names**, but for the shell. -/
def table : List (String × (Company → Work Unit)) :=
  [("[", fun _ => test true), ("arch", fun _ => fact "x86_64"), ("basename", fun _ => basename),
    ("cat", fun _ => cat), ("chmod", fun _ => chmod), ("cp", fun _ => cp), ("cut", fun _ => cut),
    ("date", fun _ => date), ("dirname", fun _ => dirname), ("echo", fun _ => echo),
    ("egrep", fun _ => grep true false), ("env", env), ("expr", fun _ => expr),
    ("false", fun _ => only 1), ("fgrep", fun _ => grep false true), ("find", findFiles),
    ("fold", fun _ => fold), ("grep", fun _ => grep false false), ("groups", fun _ => fact "root"),
    ("head", fun _ => head), ("hostname", fun _ => fact "localhost"), ("id", fun _ => identity),
    ("kill", fun _ => kill), ("ln", fun _ => ln), ("logname", fun _ => logname),
    ("ls", fun _ => ls), ("mkdir", fun _ => mkdir), ("mktemp", fun _ => mktemp),
    ("mv", fun _ => mv), ("nice", nice), ("nl", fun _ => nl), ("nohup", nohup),
    ("nproc", fun _ => fact "4"), ("od", fun _ => od), ("paste", fun _ => paste),
    ("printenv", fun _ => printenv), ("printf", fun _ => printf), ("pwd", fun _ => pwd),
    ("readlink", fun _ => readlink), ("realpath", fun _ => realpath), ("rev", fun _ => rev),
    ("rm", fun _ => rm), ("rmdir", fun _ => rmdir), ("sed", fun _ => sed), ("seq", fun _ => seq),
    ("setsid", setsid), ("sleep", fun _ => sleep), ("sort", fun _ => sort), ("stat", fun _ => stat),
    ("sync", fun _ => nothing), ("tac", fun _ => tac), ("tail", fun _ => tail),
    ("tee", fun _ => tee), ("test", fun _ => test false), ("timeout", timeout),
    ("touch", fun _ => touch), ("tr", fun _ => tr), ("true", fun _ => only 0),
    ("truncate", fun _ => truncate), ("tty", fun _ => tty), ("uname", fun _ => uname),
    ("uniq", fun _ => uniq), ("users", fun _ => nothing), ("wc", fun _ => wc),
    ("whoami", fun _ => fact "root"), ("xargs", xargs), ("yes", fun _ => yes)]

/-- The names of the shell. -/
def shellNames : List String := ["sh", "dash"]

/-- The names of all programs. -/
def names : List String := shellNames ++ table.map (·.1)

/-- Play a program by its name. -/
def play (co : Company) (name : String) (c : Call) : Play Nat :=
  if shellNames.contains name then shell co c
  else match table.lookup name with
    | some work => (work co).toPlay c
    | none => pure 127

end Program

namespace Company

/-- **The company that plays everything**; the bound is on how deep commands stand within one
another. -/
def whole : Nat → Company
  | 0 =>
    { command := fun _ _ => throw .fault
      program := fun _ _ => pure 127
      script := fun _ _ _ => throw .fault }
  | depth + 1 =>
    { command := fun b c => Scene.play (whole depth) b c
      program := fun name call => Program.play (whole depth) name call
      script := fun b shown text => Scene.script (whole depth) b shown text }

/-- The most commands that stand within one another. -/
def depth : Nat := 1000000000

end Company

end NestedSession.Rehearsal
