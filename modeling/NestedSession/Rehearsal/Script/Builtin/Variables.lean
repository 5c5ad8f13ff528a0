import NestedSession.Rehearsal.Script.Builtin.Basic

/-!
# Rehearsal/Script/Builtin/Variables — variables, arguments and options

    export readonly local unset set shift read getopts
-/

namespace NestedSession.Rehearsal.Builtin

/-! ## Marks -/

/-- Mark a variable, which is given a value first if there is one. -/
def markOne (f : Variable → Variable) (word : String) : Scene Unit := do
  let (name, value) := split word
  demandName name
  match value with
  | some value => Scene.assign name value
  | none => pure ()
  modify fun sh => sh.mark name f

/-- Mark variables, or show those that are marked. -/
def marking (called : String) (isMarked : Variable → Bool) (f : Variable → Variable) : Builtin :=
  fun _ words => do
    let (letters, words) ← switches "p" "" words
    if words.isEmpty || !letters.isEmpty then
      showAll (called ++ " ") ((← get).vars.filter fun (_, v) => isMarked v)
    else words.forM (markOne f)
    pure 0

/-- Let programs be given variables. -/
def export_ : Builtin := marking "export" (·.exported) fun v => { v with exported := true }

/-- Let variables keep their values. -/
def readonly : Builtin := marking "readonly" (·.fixed) fun v => { v with fixed := true }

/-- Keep variables for the call. -/
def local_ : Builtin := fun _ words => do
  if (← get).kept.isEmpty then Scene.fail "not in a function"
  else
    words.forM fun word => do
      let (name, value) := split word
      if name = "-" then pure ()
      else
        demandName name
        modify fun sh => sh.keep name
        match value with
        | some value => Scene.assign name value
        | none => pure ()
    pure 0

/-- Forget variables or functions. -/
def unset : Builtin := fun _ words => do
  let (letters, words) ← switches "vf" "" words
  let functions := (letters.getLast?.map (·.1)) = some 'f'
  let one (name : String) : Scene Unit := do
    let sh ← get
    if functions then set { sh with functions := sh.functions.filter (·.1 != name) }
    else
      demandName name
      if sh.isFixed name then Scene.fail (name ++ ": is read only")
      else set (sh.unset name)
  words.forM one
  pure 0

/-! ## Options -/

/-- The options by their names; those without a letter change nothing. -/
def options : List (String × Option Char) :=
  [("errexit", some 'e'), ("noglob", some 'f'), ("ignoreeof", some 'I'), ("interactive", some 'i'),
    ("monitor", some 'm'), ("noexec", some 'n'), ("stdin", some 's'), ("xtrace", some 'x'),
    ("verbose", some 'v'), ("vi", some 'V'), ("emacs", some 'E'), ("noclobber", some 'C'),
    ("allexport", some 'a'), ("notify", some 'b'), ("nounset", some 'u'),
    ("privileged", some 'p'), ("nolog", none), ("debug", none)]

/-- Turn an option on or off. -/
def turn (on : Bool) (c : Char) : Scene Unit := do
  if c = 'p' || Shell.optionLetters.contains c then
    modify fun sh => { sh with
      options := if on then c :: sh.options.filter (· != c) else sh.options.filter (· != c) }
  else Scene.fail ("Illegal option -" ++ String.ofList [c])

/-- Turn an option on or off by its name. -/
def turnNamed (on : Bool) (name : String) : Scene Unit :=
  match options.lookup name with
  | some (some c) => turn on c
  | some none => pure ()
  | none => Scene.fail ("Illegal option -o " ++ name)

/-- Show the options. -/
def showOptions (on : Bool) : Scene Unit := do
  let sh ← get
  if on then Scene.print "Current option settings\n"
  options.forM fun (name, letter) =>
    let isOn := letter.any sh.has
    if on then
      let padding := String.ofList (List.replicate (16 - name.length) ' ')
      Scene.print (name ++ padding ++ (if isOn then "on" else "off") ++ "\n")
    else Scene.print ("set " ++ (if isOn then "-o " else "+o ") ++ name ++ "\n")

/-- Turn the options of one word on or off.  Whether the next word was used is the answer. -/
def turnLetters (on : Bool) (next : Option String) (cs : List Char) : Scene Bool :=
  cs.foldlM (fun used c => do
    if c = 'o' then
      match next with
      | some name => turnNamed on name
      | none => showOptions on
      pure (used || next.isSome)
    else
      turn on c
      pure used) false

/-- Turn the options that words begin with on or off.  The words behind them come with whether
they become the arguments. -/
def turnAll : Nat → List String → Scene (Option (List String))
  | 0, _ => pure none
  | _, [] => pure none
  | fuel + 1, word :: rest => do
    match word.toList with
    | ['-'] =>
      modify fun sh => { sh with options := sh.options.filter fun c => c != 'x' && c != 'v' }
      pure (if rest.isEmpty then none else some rest)
    | ['-', '-'] => pure (some rest)
    | '-' :: cs =>
      let used ← turnLetters true rest.head? cs
      turnAll fuel (if used then rest.drop 1 else rest)
    | '+' :: cs =>
      let used ← turnLetters false rest.head? cs
      turnAll fuel (if used then rest.drop 1 else rest)
    | _ => pure (some (word :: rest))

/-- Set the arguments. -/
def setArguments (words : List String) : Scene Unit :=
  modify fun sh => { sh with arguments := words, index := 1, cursor := 0 }

/-- Set options and arguments, or show the variables. -/
def set_ : Builtin := fun _ words => do
  if words.isEmpty then showAll "" ((← get).vars.filter fun (_, v) => v.value.isSome)
  else
    match ← turnAll (words.length + 1) words with
    | some rest => setArguments rest
    | none => pure ()
  pure 0

/-- Drop arguments. -/
def shift : Builtin := fun _ words => do
  let n ← match words with
    | word :: _ => number word
    | [] => pure 1
  let sh ← get
  if sh.arguments.length < n then Scene.fail "can't shift that many"
  else
    set { sh with arguments := sh.arguments.drop n, index := 1, cursor := 0 }
    pure 0

/-! ## Reading -/

/-- A character that was read, and whether it stands for itself. -/
abbrev Readings := List (Char × Bool)

/-- Characters of which a backslash keeps the next one, put behind others, the last first; and
whether a backslash ends them. -/
def unescapeLine : List Char → Readings → Readings × Bool
  | [], got => (got, false)
  | ['\\'], got => (got, true)
  | '\\' :: c :: rest, got => unescapeLine rest ((c, true) :: got)
  | c :: rest, got => unescapeLine rest ((c, false) :: got)

/-- The characters of a line; a backslash keeps the next one or joins two lines. -/
def readOn (raw : Bool) : Nat → Readings → Scene (Readings × Bool)
  | 0, got => pure (got.reverse, true)
  | fuel + 1, got => do
    let line ← Scene.lift (Play.await fun pid m => m.readLine pid 0)
    let bs := (line.toOption).getD []
    let cs := (Latin.characters bs).filter (·.toNat != 0)
    let ends := cs.getLast? = some '\n'
    let cs := if ends then cs.dropLast else cs
    if raw then pure (got.reverse ++ cs.map fun c => (c, false), ends)
    else
      let (got, joins) := unescapeLine cs got
      if joins && ends then readOn raw fuel got else pure (got.reverse, ends)

/-- Whether a character that was read separates. -/
def separates (separators : List Char) (e : Char × Bool) : Bool :=
  !e.2 && separators.contains e.1

/-- Whether a character that was read is a separating blank. -/
def isBlank (separators : List Char) (e : Char × Bool) : Bool :=
  separates separators e && Splitter.isBlank e.1

/-- The first field, and what is behind its separator. -/
def fieldOf (separators : List Char) (cs : Readings) : Readings × Readings :=
  let field := cs.takeWhile fun e => !separates separators e
  let rest := (cs.drop field.length).dropWhile (isBlank separators)
  match rest with
  | e :: behind =>
    if separates separators e && !isBlank separators e then
      (field, behind.dropWhile (isBlank separators))
    else (field, rest)
  | [] => (field, [])

/-- What the last name is given: all that is left, but for blanks at its end, and for a separator
that only ends it. -/
def lastField (separators : List Char) (cs : Readings) : Readings :=
  let (field, rest) := fieldOf separators cs
  if rest.isEmpty then field
  else (cs.reverse.dropWhile (isBlank separators)).reverse

/-- Give names the fields of a line. -/
def distribute (separators : List Char) : List String → Readings → List (String × String)
  | [], _ => []
  | [name], cs => [(name, String.ofList ((lastField separators cs).map (·.1)))]
  | name :: names, cs =>
    let (field, rest) := fieldOf separators cs
    (name, String.ofList (field.map (·.1))) :: distribute separators names rest

/-- **Read a line** and give its fields to variables. -/
def read : Builtin := fun _ words => do
  let (letters, names) ← switches "r" "p" words
  if names.isEmpty then Scene.fail "arg count"
  else
    names.forM demandName
    let (cs, ends) ← readOn (letters.any (·.1 == 'r')) Play.rounds []
    let separators := (← get).separators
    let trimmed := cs.dropWhile (isBlank separators)
    (distribute separators names trimmed).forM fun (name, value) => Scene.assign name value
    pure (if ends then 0 else 1)

/-! ## Switches of a script -/

/-- Set the variable of a switch, and where the next one is. -/
def setSwitch (name c : String) (index cursor : Nat) : Scene Unit := do
  modify fun sh => { sh.put "OPTIND" (toString index) with index, cursor }
  Scene.assign name c

/-- Refuse a switch, in a variable or aloud. -/
def refuseSwitch (silent : Bool) (text complaint : String) : Scene Unit := do
  if silent then Scene.assign "OPTARG" text
  else
    Scene.say 2 (complaint ++ "\n")
    modify fun sh => sh.unset "OPTARG"

/-- **The next switch of a script.** -/
def getopts : Builtin := fun _ words => do
  match words with
  | spec :: name :: given =>
    let sh ← get
    let words := if given.isEmpty then sh.arguments else given
    -- Beyond the last word everything begins anew.
    let isBeyond := words.length + 1 < sh.index
    let index := if isBeyond then 1 else sh.index
    let before := if index < 2 then "" else words.getD (index - 2) ""
    let isInside := !isBeyond && 0 < sh.cursor && sh.cursor < before.length
    let word := if isInside then before else words.getD (index - 1) ""
    let allowed := spec.toList
    let silent := allowed.head? = some ':'
    let finish (index : Nat) : Scene Nat := do
      setSwitch name "?" index 0
      pure 1
    if !isInside && (word.toList.head? != some '-' || word = "-") then finish index
    else if !isInside && word = "--" then finish (index + 1)
    else
      let cursor := if isInside then sh.cursor else 1
      let next := if isInside then index else index + 1
      let c := word.toList.getD cursor '?'
      let text := String.ofList [c]
      let behind := word.toList.drop (cursor + 1)
      let found := allowed.dropWhile (· != c)
      if c = ':' || found.isEmpty then
        refuseSwitch silent text ("Illegal option -" ++ text)
        setSwitch name "?" next (cursor + 1)
      else if (found.drop 1).head? = some ':' then
        match if behind.isEmpty then words[next - 1]? else some (String.ofList behind) with
        | some value =>
          Scene.assign "OPTARG" value
          setSwitch name text (if behind.isEmpty then next + 1 else next) 0
        | none =>
          refuseSwitch silent text ("No arg for -" ++ text ++ " option")
          setSwitch name (if silent then ":" else "?") next 0
      else
        Scene.assign "OPTARG" ""
        setSwitch name text next (cursor + 1)
      pure 0
  | _ => Scene.fail "Usage: getopts optstring var [arg...]"

end NestedSession.Rehearsal.Builtin
