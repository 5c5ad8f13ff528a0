import NestedSession.Rehearsal.Script.Builtin.Flow
import NestedSession.Rehearsal.Script.Builtin.Processes
import NestedSession.Rehearsal.Script.Builtin.Variables
import NestedSession.Rehearsal.Script.Reading

/-!
# Rehearsal/Script/Playing — how commands are played

A simple command is played in this order: its words are expanded, its name is looked up, its
redirections are followed, its variables are set, and then the function, the builtin or the program
is run.  Whatever it changed for itself alone is as before when it is over, however it ends
(`Scene.simple`).  The parts of a command are left to the company, so that how deep they stand in
one another is bounded in one place only.
-/

namespace NestedSession.Rehearsal.Builtin

/-- **The builtins by their names**, but for `eval`, which is a part of the script. -/
def table : List (String × Builtin) :=
  [(":", only 0), (".", dot), ("break", leaveLoops .break_), ("continue", leaveLoops .continue_),
    ("exec", exec), ("exit", exit), ("export", export_), ("readonly", readonly),
    ("return", return_), ("set", set_), ("shift", shift), ("times", times), ("trap", trap),
    ("unset", unset), ("local", local_), ("alias", alias_), ("bg", resume), ("cd", cd),
    ("chdir", cd), ("command", command), ("echo", echo), ("false", only 1), ("fg", resume),
    ("getopts", getopts), ("hash", hash), ("jobs", jobs), ("kill", kill), ("printf", printf),
    ("pwd", pwd), ("read", read), ("test", test), ("[", bracket), ("true", only 0),
    ("type", type_), ("ulimit", ulimit), ("umask", umask), ("unalias", unalias), ("wait", wait)]

/-- A builtin by its name. -/
def named (name : String) : Builtin := (table.lookup name).getD (only 0)

end NestedSession.Rehearsal.Builtin

namespace NestedSession.Rehearsal.Scene

/-! ## Words -/

/-- The fields of a command so far, and the words that are still to be expanded. -/
structure Lineup where
  fields : List String
  words : List Word

/-- Expand words until there are more than so many fields. -/
def lineUp (co : Company) (count : Nat) (fields : List String) : List Word → Scene Lineup
  | [] => pure ⟨fields, []⟩
  | w :: ws => do
    if count < fields.length then pure ⟨fields, w :: ws⟩
    else lineUp co count (fields ++ (← fieldsOfWord co w)) ws

/-- What a command is about to run. -/
structure Errand where
  lineup : Lineup
  /-- Which of the fields is the name. -/
  first : Nat
  /-- What the name means, if that can be said without a look at the files. -/
  meaning : Option Meaning
  /-- Whether the first builtin that was named is a special one. -/
  special : Option Bool
  /-- The search path, if it is not that of the script. -/
  path : Option String

namespace Errand

/-- Whether a certain builtin is run. -/
def runs (e : Errand) (name : String) : Bool :=
  match e.meaning with
  | some (.builtin n) => n == name
  | _ => false

/-- Whether words may set variables. -/
def settles (e : Errand) : Bool := settingNames.any e.runs

end Errand

/-- Where the name stands that `command` runs, and whether it is looked for along the standard
path; there is none if `command` only says what a name means. -/
def behindCommand (co : Company) : Nat → Lineup → Nat → Option String →
    Scene (Lineup × Option (Nat × Option String))
  | 0, l, _, _ => pure (l, none)
  | fuel + 1, l, n, path => do
    let l ← lineUp co n l.fields l.words
    match (l.fields[n]?).map String.toList with
    | none => pure (l, none)
    | some ['-', '-'] =>
      let l ← lineUp co (n + 1) l.fields l.words
      pure (l, if n + 1 < l.fields.length then some (n + 1, path) else none)
    | some ('-' :: c :: cs) =>
      if (c :: cs).all (· == 'p') then
        behindCommand co fuel l (n + 1) (some Shell.standardPath)
      else pure (l, none)
    | some _ => pure (l, some (n, path))

/-- **Find out what a command runs**, as far as its first words tell. -/
def settleErrand (co : Company) : Nat → Errand → Bool → Scene Errand
  | 0, e, _ => pure e
  | fuel + 1, e, withFunctions => do
    match (← get).meaning? (e.lineup.fields.getD e.first "") withFunctions with
    | some (.builtin name) =>
      let special := some (e.special.getD (specialNames.contains name))
      let e := { e with meaning := some (.builtin name), special }
      if name != "command" then pure e
      else
        let (lineup, found) ← behindCommand co Play.rounds e.lineup (e.first + 1) e.path
        match found with
        | none => pure { e with lineup }
        | some (first, path) => settleErrand co fuel { e with lineup, first, path } false
    | meaning => pure { e with meaning }

/-! ## What is run -/

/-- Whether something is to be done on a signal or at the end. -/
def hasTraps : Scene Bool := gets fun sh => sh.traps.any fun (_, action) => !action.isEmpty

/-- **Run a builtin.** -/
def runBuiltin (co : Company) (b : Bearing) (name : String) (isSpecial : Bool)
    (words : List String) : Scene Unit := do
  let before ← gets (·.builtin)
  modify fun sh => { sh with builtin := some name, written := [] }
  let ended ← result do
    let status ← if name = "eval" then co.script b.inner false (" ".intercalate words)
      else Builtin.named name co words
    if ← flush then setStatus status
    else
      warn (name ++ ": I/O error")
      setStatus (status ||| 1)
  modify fun sh => { sh with builtin := before, written := [] }
  match ended with
  | .ok () => pure ()
  | .error why => if why != .fault || isSpecial then throw why

/-- The most calls that stand in one another. -/
def callLimit : Nat := 1000

/-- **Run a function.** -/
def runFunction (co : Company) (b : Bearing) (body : Command) (arguments : List String) :
    Scene Unit := do
  let sh ← get
  if callLimit ≤ sh.calls then
    fail ("Maximum function recursion depth (" ++ toString callLimit ++ ") reached")
  set { sh with arguments, index := 1, cursor := 0, loops := 0, calls := sh.calls + 1 }
  let ended ← result (co.command b.inner body)
  modify fun now => { now with
    arguments := sh.arguments
    index := sh.index
    cursor := sh.cursor
    loops := sh.loops
    calls := sh.calls }
  match ended with
  | .ok () | .error (.return_ _) => pure ()
  | .error why => throw why

/-- **Run a program**, in a process of its own unless nothing comes after it. -/
def runProgram (co : Company) (b : Bearing) (path : Option String) (words : List String) :
    Scene Unit := do
  let along := path.getD (← get).searchPath
  let name := words.headD ""
  match ← meaningOf along name false with
  | .nothing e =>
    warn (name ++ ": " ++ refusal e)
    setStatus 127
  | _ =>
    if path.isNone then remember name
    if b.isLast && !(← hasTraps) then become co along words
    else
      let pid ← fork do
        let _ ← result (become co along words)
        gets (·.status)
      setStatus (← await [pid])

/-! ## Simple commands -/

/-- The text of a word that sets a variable, as a name and a value. -/
def settingOf (co : Company) (w : Word) : Scene (String × String) := do
  let (name, value) := Builtin.split (← textOfSetting co w)
  pure (name, value.getD "")

/-- Set the variables that stand before a command; `keeps` those for the command alone, and `shows`
them to programs. -/
def setAll (co : Company) (keeps shows : Bool) (settings : List Word) :
    Scene (List String) :=
  settings.mapM fun w => do
    let (name, value) ← settingOf co w
    if keeps then modify fun sh => sh.keep name
    assign name value
    if keeps || shows then modify fun sh => sh.mark name fun v => { v with exported := true }
    pure (name ++ "=" ++ value)

/-- What stands before a command that is shown. -/
def traceMark (co : Company) : Scene String := do
  let sh ← get
  let mark := (sh.get? "PS4").getD ""
  match Script.quotedWord mark with
  | .error _ => pure mark
  | .ok w =>
    set { sh with options := sh.options.filter (· != 'x') }
    finally_ (textOfDocument co w) (modify fun now => { now with options := sh.options })

/-- Show a command that is about to be run. -/
def trace (co : Company) (kept : Kept) (words : List String) : Scene Unit := do
  if (← get).has 'x' then
    let fd := ((kept.lookup 2).bind id).getD 2
    say fd ((← traceMark co) ++ " ".intercalate words ++ "\n")

/-- Run what a command is about to run. -/
def runErrand (co : Company) (b : Bearing) (e : Errand) (words : List String) : Scene Unit := do
  match words with
  | [] => setStatus (← gets (·.outputStatus))
  | name :: arguments =>
    match e.meaning with
    | some (.function body) => runFunction co b body arguments
    | some (.builtin _) => runBuiltin co b name (e.special = some true) arguments
    | _ => runProgram co b e.path words

/-- **Play a simple command.** -/
def simple (co : Company) (b : Bearing) (line : Nat) (settings words : List Word)
    (redirects : List Redirect) : Scene Unit := do
  modify fun sh => { sh with line, outputStatus := 0 }
  let lineup ← lineUp co 0 [] words
  let e : Errand := ⟨lineup, 0, none, none, none⟩
  let e ← if lineup.fields.isEmpty then pure e else settleErrand co Play.rounds e true
  let rest ← e.lineup.words.mapM fun w => do
    if e.settles && Word.isSetting w then pure [← textOfSetting co w] else fieldsOfWord co w
  let words := (e.lineup.fields ++ rest.flatten).drop e.first
  let keeps := !words.isEmpty && e.special != some true
  let isExec := e.runs "exec"
  let run : Scene Unit := do
    let (isDone, kept) ← redirect co redirects
    finally_ (do
      if !isDone then
        setStatus 2
        if e.special = some true then throw .fault
      else
        let set_ ← setAll co keeps (isExec && 1 < words.length) settings
        trace co kept (set_ ++ words)
        runErrand co b e words) (if isExec then forget kept else restore kept)
  if keeps then
    modify Shell.beginScope
    finally_ run (modify Shell.endScope)
  else run

/-! ## Processes of the script -/

/-- **Play a command in a process of its own.** -/
def apart (co : Company) (b : Bearing) (line : Nat) (body : Command) (redirects : List Redirect)
    (behind : Bool) : Scene Unit := do
  modify fun sh => { sh with line }
  let leadings ← redirects.mapM (leadingOf co)
  let enter (b : Bearing) : Scene Unit := do
    let (isDone, kept) ← followOn [] leadings
    forget kept
    if !isDone then
      setStatus 2
      throw .fault
    co.command b body
  if !behind && b.isLast && !(← hasTraps) then enter b
  else
    let pid ← start co do
      if behind then
        stepBack
        readNothing
      enter ⟨b.tested && !behind, true⟩
    if behind then
      keepJob [pid]
      setStatus 0
    else setStatus (← await [pid])

/-- Start the parts of a pipe, each of which reads what the one before it writes. -/
def startParts (co : Company) (b : Bearing) (behind : Bool) (before : Option Nat) :
    List Command → List Pid → Scene (List Pid)
  | [], pids => pure pids.reverse
  | c :: rest, pids => do
    let next ← if rest.isEmpty then pure none
      else some <$> lift (Play.call fun pid m => m.makePipe pid)
    let lead (m : Machine) (pid : Pid) (fd target : Nat) : Machine :=
      if fd = target then m else ((m.copy pid fd target).2).close pid fd
    let pid ← start co do
      if behind then
        stepBack
        if pids.isEmpty then readNothing
      lift <| Play.change fun pid m =>
        let m := match next with
          | some (out, _) => m.close pid out
          | none => m
        let m := match before with
          | some out => lead m pid out 0
          | none => m
        match next with
        | some (_, into) => lead m pid into 1
        | none => m
      co.command ⟨b.tested, true⟩ c
    lift <| Play.change fun pid m =>
      let m := match before with
        | some out => m.close pid out
        | none => m
      match next with
      | some (_, into) => m.close pid into
      | none => m
    startParts co b behind (next.map (·.1)) rest (pid :: pids)

/-- **Play a pipe.** -/
def pipe (co : Company) (b : Bearing) (parts : List Command) (behind : Bool) : Scene Unit := do
  let pids ← startParts co b behind none parts []
  if behind then
    keepJob pids
    setStatus 0
  else setStatus (← await pids)

/-! ## Loops and choices -/

/-- What a jump means to the loop it comes to: whether the loop goes on, or the jump to make from
there. -/
def jump : Leave → Except Leave Bool
  | .break_ levels => if levels ≤ 1 then .ok false else .error (.break_ (levels - 1))
  | .continue_ levels => if levels ≤ 1 then .ok true else .error (.continue_ (levels - 1))
  | why => .error why

/-- One round of a loop: whether it goes on. -/
def roundOf (co : Company) (b : Bearing) (body : Command) : Scene Bool := do
  match ← result (co.command b.inner body) with
  | .ok () => pure true
  | .error why =>
    match jump why with
    | .ok goesOn => pure goesOn
    | .error why => throw why

/-- Play a scene as a loop. -/
def looping (scene : Scene Unit) : Scene Unit := do
  modify fun sh => { sh with loops := sh.loops + 1 }
  finally_ scene (modify fun sh => { sh with loops := sh.loops - 1 })

/-- Rounds with a test before each; the status is that of the last round. -/
def testedRounds (co : Company) (b : Bearing) (wanted : Bool) (test body : Command) :
    Nat → Nat → Scene Unit
  | 0, _ => pure ()
  | fuel + 1, last => do
    match ← result (co.command .test test) with
    | .ok () =>
      if ((← gets (·.status)) == 0) != wanted then setStatus last
      else
        let goesOn ← roundOf co b body
        if goesOn then testedRounds co b wanted test body fuel (← gets (·.status))
    | .error why =>
      if why != .return_ true then setStatus last
      match jump why with
      | .ok goesOn => if goesOn then testedRounds co b wanted test body fuel last
      | .error why => throw why

/-- Rounds with a variable that has one value after the other. -/
def rounds (co : Company) (b : Bearing) (name : String) (body : Command) :
    List String → Scene Unit
  | [] => pure ()
  | value :: values => do
    assign name value
    let goesOn ← roundOf co b body
    if goesOn then rounds co b name body values

/-- Whether one of the patterns matches. -/
def matchesAny (co : Company) (text : String) : List Word → Scene Bool
  | [] => pure false
  | w :: ws => do
    let p ← patternOfWord co w
    if p.fits text.toList then pure true else matchesAny co text ws

/-- Play the first of the cases that matches. -/
def choose (co : Company) (b : Bearing) (text : String) :
    List (List Word × Command) → Scene Unit
  | [] => setStatus 0
  | (patterns, body) :: cases => do
    if ← matchesAny co text patterns then
      if body.isNothing then setStatus 0 else co.command b body
    else choose co b text cases

/-! ## Commands -/

/-- Whether a failure of a command ends a script that is told so. -/
def endsByFailure : Command → Bool
  | .simple .. | .apart .. | .pipe .. => true
  | _ => false

/-- Play the parts of a command as it says. -/
def perform (co : Company) (b : Bearing) : Command → Scene Unit
  | .nothing => pure ()
  | .simple line settings words redirects => simple co b line settings words redirects
  | .pipe parts behind => pipe co b parts behind
  | .negated body => do
    co.command .test body
    setStatus (if (← gets (·.status)) = 0 then 1 else 0)
  | .redirected line body redirects => do
    modify fun sh => { sh with line }
    let (isDone, kept) ← redirect co redirects
    finally_ (if isDone then co.command b.inner body else setStatus 2) (restore kept)
  | .apart line body redirects behind => apart co b line body redirects behind
  | .sequence first second => do
    co.command b.inner first
    co.command b second
  | .chain wanted first second => do
    co.command .test first
    if ((← gets (·.status)) == 0) == wanted then co.command b second
  | .branch test yes no => do
    co.command .test test
    if (← gets (·.status)) = 0 then co.command b yes
    else if no.isNothing then setStatus 0
    else co.command b no
  | .loop wanted test body => looping (testedRounds co b wanted test body Play.rounds 0)
  | .each line name items body => do
    modify fun sh => { sh with line }
    let values ← fieldsOfWords co items
    if values.isEmpty then setStatus 0 else looping (rounds co b name body values)
  | .choice line word cases => do
    modify fun sh => { sh with line }
    let text ← textOfWord co word
    choose co b text cases
  | .define _ name body => do
    modify fun sh => { sh with
      functions := (name, body) :: sh.functions.filter (·.1 != name) }
    setStatus 0

/-- **Play a command.**  What came by signal is heeded before it and after it. -/
def play (co : Company) (b : Bearing) (c : Command) : Scene Unit := do
  heedSignals co Play.rounds
  if !(← get).has 'n' then perform co b c
  let sh ← get
  if !sh.traps.isEmpty then heedSignals co Play.rounds
  if sh.has 'e' && endsByFailure c && !b.tested && (← gets (·.status)) != 0 then throw .end_

/-! ## Scripts -/

/-- The lines to which the first characters of a text belong. -/
def linesAround (text : List Char) (count : Nat) : List Char :=
  let head := text.take count
  let line := (text.drop count).takeWhile (· != '\n')
  if head.isEmpty || head.getLast? = some '\n' then head
  else head ++ line ++ (text.drop (count + line.length)).take 1

/-- The length of the first lines of a text. -/
def lengthOfLines (text : List Char) (count : Nat) : Nat :=
  Number.total (((text.splitOn '\n').take count).map fun line => line.length + 1)

/-- Play what is left of a script: the status of its last command.  Lines are shown as they are
read, if the script is told so. -/
def scriptOn (co : Company) (b : Bearing) (shown : Bool) : Nat → Script.Reader → Nat → Scene Nat
  | 0, _, status => pure status
  | fuel + 1, r, status => do
    let sh ← get
    let text := r.rest
    let showsLines := shown && sh.has 'v'
    let show_ (count : Nat) : Scene Unit := say 2 (String.ofList (linesAround text count))
    match Script.nextCommand { r with aliases := sh.aliases, documents := sh.documents } with
    | .error f =>
      if showsLines then show_ (lengthOfLines text (f.line + 1 - r.line))
      modify fun sh => { sh with line := f.line }
      fail ("Syntax error: " ++ f.text)
    | .ok (none, r) =>
      if showsLines then show_ (text.length - r.left)
      pure status
    | .ok (some c, r) =>
      if showsLines then show_ (text.length - r.left)
      modify fun sh => { sh with documents := r.documents }
      if c.isNothing || sh.has 'n' then scriptOn co b shown fuel r status
      else
        co.command ⟨b.tested, b.isLast && r.again && r.token == .endOfFile⟩ c
        scriptOn co b shown fuel r (← gets (·.status))

/-- **Play a script.** -/
def script (co : Company) (b : Bearing) (shown : Bool) (text : String) : Scene Nat := do
  let sh ← get
  scriptOn co b shown Play.rounds (.ofText text.toList 1 sh.documents sh.aliases) 0

end NestedSession.Rehearsal.Scene
