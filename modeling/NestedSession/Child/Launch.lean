import NestedSession.Environment.Variables
import NestedSession.Settings.Basic
import NestedSession.System.Path

/-!
# Child/Launch — the words that start a compositor
-/

namespace NestedSession

/-- The words that start a child, the program first. -/
structure Launch where
  argv : List String
  deriving DecidableEq, Repr, Inhabited

namespace Launch

/-- **The words for a session**: the wrapper, the compositor, and its options.  Its settings are
looked for under the source directory and what it starts under the build directory. -/
def ofSettings (s : SessionSettings) (sourceDir buildDir socket : Path) : Launch :=
  ⟨s.wrapper ++ [s.compositor] ++ (if s.xwayland then [] else ["--no-xwayland"])
    ++ ["-C", (sourceDir.joinText s.compositorConfig).shown, "--socket", socket.shown,
      "-E", (buildDir.joinText s.launcher).shown]⟩

/-- The program to run. -/
def program (l : Launch) : String := l.argv.headD ""

/-- The words after the program. -/
def arguments (l : Launch) : List String := l.argv.drop 1

/-- The words for a reader. -/
def shown (l : Launch) : String := " ".intercalate l.argv

end Launch

/-- What the system is asked to run: a program, its words, and all of its variables.  Its input is
empty, both outputs go to the session, and it has a process group of its own. -/
structure Invocation where
  program : Octets
  arguments : List Octets
  vars : Variables
  /-- Some word cannot be handed over, and a note stands in its place. -/
  isSpoiled : Bool
  deriving DecidableEq, Repr, Inhabited

namespace Invocation

/-- Whether octets can be handed over to the system: an octet of zero would end them early. -/
def isPassable (bs : Octets) : Bool := !bs.contains 0

/-- What stands for a word that cannot be handed over. -/
def spoiledWord : Octets := Utf8.encode "<string-with-nul>"

/-- A word as it is handed over. -/
def passed (bs : Octets) : Octets := if isPassable bs then bs else spoiledWord

/-- **A program with its words and variables.** -/
def of (program : Octets) (arguments : List Octets) (vars : Variables) : Invocation where
  program := passed program
  arguments := arguments.map passed
  vars := vars
  isSpoiled := !(program :: arguments).all isPassable

/-- Whether the system can be asked to run it. -/
def isSound (call : Invocation) : Bool :=
  !call.isSpoiled && call.vars.entries.all fun (name, value) => isPassable name && isPassable value

end Invocation

/-- The words of a launch with the variables of the child. -/
def Launch.invocation (l : Launch) (vars : Variables) : Invocation :=
  .of (Utf8.encode l.program) (l.arguments.map Utf8.encode) vars

end NestedSession
