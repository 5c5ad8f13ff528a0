import NestedSession.Rehearsal.Script.Playing

/-!
# Rehearsal/Script/Starting — the shell as a program

The shell reads a script from a file, from a word, or from its input.  Its switches are options of
the script, which the script may change later on.
-/

namespace NestedSession.Rehearsal

namespace Scene

/-- How a shell is called. -/
structure Opening where
  /-- Whether the script is a word. -/
  isWord : Bool
  /-- What comes behind the switches. -/
  words : List String

/-- Take the switches that a shell is called with. -/
def takeSwitches : Nat → Opening → Scene Opening
  | 0, o => pure o
  | fuel + 1, o => do
    let take (on : Bool) (cs : List Char) (rest : List String) : Scene Opening := do
      let letters := cs.filter fun c => c != 'c' && c != 'l'
      let used ← Builtin.turnLetters on rest.head? letters
      takeSwitches fuel ⟨o.isWord || cs.contains 'c', if used then rest.drop 1 else rest⟩
    match o.words with
    | [] => pure o
    | word :: rest =>
      match word.toList with
      | ['-'] | ['-', '-'] => pure { o with words := rest }
      | '-' :: cs => take true cs rest
      | '+' :: cs => take false cs rest
      | _ => pure o

/-- Read the script from the input. -/
def ofInput (co : Company) (arguments : List String) : Scene Unit := do
  modify fun sh => { sh with arguments }
  let read ← lift (Play.readAll 0)
  let _ ← co.script .usual true (Latin.text (read.toOption.getD []))

/-- Read the script from a file. -/
def ofFile (co : Company) (path : String) (arguments : List String) : Scene Unit := do
  let text ← Builtin.scriptText path
  modify fun sh => { sh with name := path, arguments }
  let _ ← co.script .usual true text

/-- Read the script from a word, which may be followed by a name and arguments. -/
def ofWord (co : Company) (text : String) (words : List String) : Scene Unit := do
  modify fun sh => { sh with
    name := words.headD sh.name
    arguments := words.drop 1 }
  let readsOn := (← get).has 's'
  let _ ← co.script ⟨false, !readsOn⟩ false text
  if readsOn then ofInput co (words.drop 1)

/-- **Play the script that a shell is called with.** -/
def open_ (co : Company) (words : List String) : Scene Unit := do
  let o ← takeSwitches (words.length + 1) ⟨false, words⟩
  if o.isWord then
    match o.words with
    | [] => fail "-c requires an argument"
    | text :: words => ofWord co text words
  else if (← get).has 's' then ofInput co o.words
  else match o.words with
    | [] =>
      modify fun sh => { sh with options := 's' :: sh.options }
      ofInput co []
    | path :: arguments => ofFile co path arguments

/-- Ends with the code of a scene. -/
def toPlay (scene : Scene Nat) (sh : Shell) : Play Nat := fun next =>
  scene sh fun result sh => next (match result with
    | .ok code => code
    | .error _ => sh.status)

end Scene

/-- The directory that a variable names, if it is the one the process is in. -/
def namedDirectory? (files : Files) (cwd : Place) (c : Call) : Option String :=
  match c.get? "PWD" with
  | some path =>
    let isSame := (files.place? cwd (Latin.octets path)).toOption = some cwd
    if path.toList.head? = some '/' && isSame then some path else none
  | none => none

/-- **The shell.** -/
def shell (co : Company) (c : Call) : Play Nat := do
  let (self, process) ← Play.look fun pid m => (pid, m.process? pid)
  let directory ← Play.view fun files cwd =>
    (namedDirectory? files cwd c).getD (Latin.text (Path.ofPlace cwd))
  let parent := (process.map (·.parent)).getD 0
  let sh := Shell.opening c.environment c.name [] directory self parent
  let sh := { sh with deaf := (process.map (·.ignored)).getD [] }
  Scene.toPlay (Scene.toEnd co (Scene.open_ co c.arguments)) sh

end NestedSession.Rehearsal
