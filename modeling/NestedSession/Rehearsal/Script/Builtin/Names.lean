import NestedSession.Rehearsal.Script.Finding
import NestedSession.Rehearsal.Script.Reading

/-!
# Rehearsal/Script/Builtin/Names — what names mean, and where the script is

    alias unalias type hash cd pwd umask
-/

namespace NestedSession.Rehearsal.Builtin

/-! ## Aliases -/

/-- Show an alias. -/
def showAlias (a : String × String) : Scene Unit :=
  Scene.print (a.1 ++ "=" ++ quote a.2 ++ "\n")

/-- Enter an alias. -/
def enterAlias (name value : String) : List (String × String) → List (String × String)
  | [] => [(name, value)]
  | (n, v) :: rest =>
    if n = name then (n, value) :: rest else (n, v) :: enterAlias name value rest

/-- Set one alias, or show it. -/
def aliasOne (code : Nat) (word : String) : Scene Nat := do
  let sh ← get
  -- A sign at the very beginning belongs to the name.
  let name := String.ofList (word.toList.take 1 ++ (word.toList.drop 1).takeWhile (· != '='))
  if name.length = word.length then
    match sh.aliases.lookup name with
    | some value =>
      showAlias (name, value)
      pure code
    | none =>
      Scene.say 2 ("alias: " ++ name ++ " not found\n")
      pure 1
  else
    let value := String.ofList (word.toList.drop (name.length + 1))
    set { sh with aliases := enterAlias name value sh.aliases }
    pure code

/-- Set aliases, or show them. -/
def alias_ : Builtin := fun _ words => do
  if words.isEmpty then
    let all := (← get).aliases.mergeSort fun a b => Shell.rank a.1 ≤ Shell.rank b.1
    all.forM showAlias
    pure 0
  else words.foldlM aliasOne 0

/-- Forget one alias. -/
def unaliasOne (code : Nat) (name : String) : Scene Nat := do
  let sh ← get
  if (sh.aliases.lookup name).isSome then
    set { sh with aliases := sh.aliases.filter (·.1 != name) }
    pure code
  else
    Scene.say 2 ("unalias: " ++ name ++ " not found\n")
    pure 1

/-- Forget aliases. -/
def unalias : Builtin := fun _ words => do
  let (letters, words) ← switches "a" "" words
  if letters.isEmpty then words.foldlM unaliasOne 0
  else
    modify fun sh => { sh with aliases := [] }
    pure 0

/-! ## Meanings -/

/-- **Say what a name means**, in words or so that it could be used. -/
def describe (name : String) (inWords : Bool) (path : Option String) : Scene Nat := do
  let sh ← get
  let say (words brief : String) : Scene Nat := do
    Scene.print (if inWords then name ++ words ++ "\n" else brief ++ "\n")
    pure 0
  let missing : Scene Nat := do
    if inWords then Scene.print (name ++ ": not found\n")
    pure 127
  if Script.keywords.contains name then say " is a shell keyword" name
  else match sh.aliases.lookup name with
    | some value =>
      say (" is an alias for " ++ value) ("alias " ++ name ++ "=" ++ quote value)
    | none =>
      match ← Scene.meaningOf (path.getD sh.searchPath) name true with
      | .function _ => say " is a shell function" name
      | .builtin _ =>
        if specialNames.contains name then say " is a special shell builtin" name
        else say " is a shell builtin" name
      | .program file =>
        let isThere ← Scene.lift (Play.view fun files cwd =>
          ((files.find cwd (Latin.octets file)).toOption).isSome)
        if !isThere then missing
        else if path.isNone && sh.found.contains name then
          say (" is a tracked alias for " ++ file) file
        else
          if path.isNone then Scene.remember name
          say (" is " ++ file) file
      | .nothing _ => missing

/-- Say what names mean. -/
def type_ : Builtin := fun _ words =>
  words.foldlM (fun code name => do
    let one ← describe name true none
    pure (max code one)) 0

/-- The order in which remembered programs are shown. -/
def foundRank (name : String) : Nat :=
  let cs := name.toList.map Char.toNat
  (16 * cs.headD 0 + Number.total cs) % 32768 % 31

/-- Remember one program. -/
def hashOne (code : Nat) (name : String) : Scene Nat := do
  match ← Scene.meaningOf (← get).searchPath name true with
  | .program _ =>
    Scene.remember name
    pure code
  | .nothing e =>
    Scene.warn (name ++ ": " ++ Scene.refusal e)
    pure 1
  | _ => pure code

/-- Show or forget the programs that are remembered, or remember some. -/
def hash : Builtin := fun _ words => do
  let (letters, words) ← switches "r" "" words
  if !letters.isEmpty then
    modify fun sh => { sh with found := [] }
    pure 0
  else if words.isEmpty then
    let sh ← get
    let names := sh.found.mergeSort fun a b => foundRank a ≤ foundRank b
    names.forM fun name => do
      match ← Scene.meaningOf sh.searchPath name true with
      | .program file => Scene.print (file ++ "\n")
      | _ => pure ()
    pure 0
  else words.foldlM hashOne 0

/-! ## Where the script is -/

/-- The names of a path that lead nowhere but down. -/
def settleNames (names : List String) (from_ : List String) : List String :=
  (names.foldl (fun done name =>
    if name.isEmpty || name = "." then done
    else if name = ".." then done.drop 1
    else name :: done) from_.reverse).reverse

/-- The names of a path. -/
def namesOf (path : String) : List String := (path.toList.splitOn '/').map String.ofList

/-- A path seen from the directory of the script. -/
def settled (directory path : String) : String :=
  let isDoubled (cs : List Char) : Bool := cs.take 2 = ['/', '/'] && (cs.drop 2).head? != some '/'
  let root (p : String) : String := if isDoubled p.toList then "//" else "/"
  if path.toList.head? = some '/' then
    root path ++ "/".intercalate (settleNames (namesOf path) [])
  else
    let here := (namesOf directory).filter (!·.isEmpty)
    root directory ++ "/".intercalate (settleNames (namesOf path) here)

/-- Enter a directory, if it can be. -/
def enterDirectory (path : String) : Scene Bool := Scene.lift <| Play.call fun pid m =>
  match m.files.place? (m.cwd pid) (Latin.octets path) with
  | .error _ => (false, m)
  | .ok place =>
    if m.files.isDirectory place then (true, m.alter pid fun p => { p with cwd := place })
    else (false, m)

/-- The path of the directory without links. -/
def realDirectory : Scene String :=
  Scene.lift (Play.view fun _ cwd => Latin.text (Path.ofPlace cwd))

/-- Go to a directory, if it can be. -/
def go (path : String) (isReal : Bool) : Scene Bool := do
  let sh ← get
  let target := if isReal then path else settled sh.directory path
  if ← enterDirectory target then
    let directory ← if isReal then realDirectory else pure target
    let mark (sh : Shell) (name value : String) : Shell :=
      (sh.set name value).mark name fun v => { v with exported := true }
    set { mark (mark sh "OLDPWD" sh.directory) "PWD" directory with directory }
    pure true
  else pure false

/-- Whether a path is looked for from other directories as well. -/
def isSought (path : String) : Bool :=
  match path.toList with
  | '/' :: _ => false
  | ['.'] | '.' :: '/' :: _ | ['.', '.'] | '.' :: '.' :: '/' :: _ => false
  | _ => true

/-- The first of some directories in which there is a path that is a directory. -/
def seek (dirs : List String) (path : String) : Scene (Option String) := Scene.lift <|
  Play.view fun files cwd => dirs.find? fun dir =>
    files.isDirectoryAt cwd (Latin.octets (Program.within dir path))

/-- **Go to a directory.** -/
def cd : Builtin := fun _ words => do
  let (letters, words) ← switches "LP" "" words
  let sh ← get
  let isReal := (letters.getLast?.map (·.1)) = some 'P'
  let isBack := words.head? = some "-"
  let target := match words with
    | [] => (sh.get? "HOME").getD ""
    | word :: _ => if isBack then (sh.get? "OLDPWD").getD "" else word
  let path := if target.isEmpty then "." else target
  let dirs := match sh.get? "CDPATH" with
    | some dirs => if isSought target then Program.directories dirs else []
    | none => []
  let found ← seek dirs path
  let whole := (found.map fun dir => Program.within dir path).getD path
  if ← go whole isReal then
    if isBack || found.any (!·.isEmpty) then Scene.print ((← get).directory ++ "\n")
    pure 0
  else Scene.fail ("can't cd to " ++ target)

/-- Show the directory of the script. -/
def pwd : Builtin := fun _ words => do
  let (letters, _) ← switches "LP" "" words
  if (letters.getLast?.map (·.1)) = some 'P' then Scene.print ((← realDirectory) ++ "\n")
  else Scene.print ((← get).directory ++ "\n")
  pure 0

/-! ## Rights withheld -/

/-- The bits of rights. -/
def rightsOf (cs : List Char) : Nat :=
  (if cs.contains 'r' then 4 else 0) + (if cs.contains 'w' then 2 else 0)
    + if cs.contains 'x' then 1 else 0

/-- The letters of rights. -/
def lettersOfRights (n : Nat) : String :=
  (if n / 4 % 2 = 1 then "r" else "") ++ (if n / 2 % 2 = 1 then "w" else "")
    ++ if n % 2 = 1 then "x" else ""

/-- One clause of a change of rights: who, how, and which. -/
def clause? (mode : Nat) (cs : List Char) : Option Nat :=
  let who := cs.takeWhile fun c => "ugoa".toList.contains c
  let all := who.isEmpty || who.contains 'a'
  let factor := (if all || who.contains 'u' then 64 else 0)
    + (if all || who.contains 'g' then 8 else 0) + if all || who.contains 'o' then 1 else 0
  match cs.drop who.length with
  | sign :: rights =>
    if !rights.all fun c => "rwxXst".toList.contains c then none
    else
      let bits := rightsOf rights * factor
      match sign with
      | '+' => some (mode ||| bits)
      | '-' => some (mode - (mode &&& bits))
      | '=' => some ((mode - (mode &&& 7 * factor)) ||| bits)
      | _ => none
  | [] => none

/-- **A mode as clauses change it.** -/
def changedMode? (mode : Nat) (text : String) : Option Nat :=
  (text.toList.splitOn ',').foldlM clause? mode

/-- Show or set the rights that are withheld from new files. -/
def umask : Builtin := fun _ words => do
  let (letters, words) ← switches "S" "" words
  let mask ← Scene.lift (Play.look fun pid m => ((m.process? pid).map (·.mask)).getD 0)
  let put (mask : Nat) : Scene Unit := Scene.lift <| Play.change fun pid m =>
    m.alter pid fun p => { p with mask := mask % 512 }
  match words with
  | [] =>
    if letters.isEmpty then
      let ds := Nat.toDigits 8 mask
      Scene.print (String.ofList (List.replicate (4 - ds.length) '0' ++ ds) ++ "\n")
    else
      let granted := 511 - mask
      Scene.print ("u=" ++ lettersOfRights (granted / 64) ++ ",g=" ++ lettersOfRights (granted / 8)
        ++ ",o=" ++ lettersOfRights granted ++ "\n")
  | word :: _ =>
    if word.toList.head?.any Char.isDigit then
      if word.toList.all fun c => '0' ≤ c && c ≤ '7' then put (Number.digits 8 word.toList).1
      else Scene.fail ("Illegal number: " ++ word)
    else match changedMode? (511 - mask) word with
      | some mode => put (511 - mode % 512)
      | none => Scene.fail ("Illegal mode: " ++ word)
  pure 0

end NestedSession.Rehearsal.Builtin
