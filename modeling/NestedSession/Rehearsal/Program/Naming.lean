import NestedSession.Rehearsal.Program.Lines

/-!
# Rehearsal/Program/Naming — programs that take paths apart and follow them

    basename dirname pwd readlink realpath mktemp

The last part of a path is what is left of it without the separators at its end; a path of
separators alone is its own last part.
-/

namespace NestedSession.Rehearsal.Program

/-! ## Parts of paths -/

/-- A path without the separators at its end, but for one that is all there is. -/
def trimmed (path : String) : List Char :=
  let cs := path.toList
  match (cs.reverse.dropWhile (· = '/')).reverse with
  | [] => cs.take 1
  | kept => kept

/-- **The last part of a path.** -/
def lastPart (path : String) : String :=
  match trimmed path with
  | ['/'] => "/"
  | cs => String.ofList (cs.reverse.takeWhile (· != '/')).reverse

/-- **What leads to the last part of a path.** -/
def leadingPart (path : String) : String :=
  let cs := trimmed path
  match cs.reverse.dropWhile (· != '/') with
  | [] => "."
  | lead => if cs = ['/'] then "/" else String.ofList (trimmed (String.ofList lead.reverse))

/-- A part without an ending, unless it is all there is. -/
def withoutEnding (ending part : String) : String :=
  let cs := part.toList
  if ending.isEmpty || ending = part || !ending.toList.isSuffixOf cs then part
  else String.ofList (cs.take (cs.length - ending.length))

/-- What ends the lines of a program. -/
def lineEnd (s : Work.Switched) : String := if s.has 'z' then "\x00" else "\n"

/-- Write the last parts of paths. -/
def basename : Work Unit := do
  let s ← Work.switches
    { plain := "az", valued := "s", inOrder := true
      long := [("multiple", 'a', .nothing), ("suffix", 's', .value), ("zero", 'z', .nothing)] }
  if s.words.isEmpty then Work.misuse "missing operand"
  if s.has 'a' || s.has 's' then
    s.words.forM fun path =>
      Work.print (withoutEnding ((s.get? 's').getD "") (lastPart path) ++ lineEnd s)
  else match s.words with
    | [path] => Work.print (lastPart path ++ lineEnd s)
    | [path, ending] => Work.print (withoutEnding ending (lastPart path) ++ lineEnd s)
    | words => Work.misuse ("extra operand " ++ quoted (words.getD 2 ""))

/-- Write what leads to the last parts of paths. -/
def dirname : Work Unit := do
  let s ← Work.switches { plain := "z", long := [("zero", 'z', .nothing)] }
  if s.words.isEmpty then Work.misuse "missing operand"
  s.words.forM fun path => Work.print (leadingPart path ++ lineEnd s)

/-! ## Places -/

/-- The path of a place. -/
def pathOf (place : Place) : String := Latin.text (Path.ofPlace place)

/-- Write the directory. -/
def pwd : Work Unit := do
  let s ← Work.switches
    { plain := "LP", long := [("logical", 'L', .nothing), ("physical", 'P', .nothing)] }
  if !s.words.isEmpty then Work.say "pwd: ignoring non-option arguments\n"
  let place ← Work.view fun _ cwd => cwd
  let isNamed ← Work.view fun files cwd => fun (path : String) =>
    decide ((files.place? cwd (Latin.octets path)).toOption = some cwd)
  match s.last? "LP", (← get).call.get? "PWD" with
  | some 'L', some path =>
    Work.printLine (if path.toList.head? = some '/' && isNamed path then path else pathOf place)
  | _, _ => Work.printLine (pathOf place)

/-- How much of a path has to be there. -/
inductive Wanted where
  /-- All but the last part. -/
  | most
  | all
  | nothing
  deriving DecidableEq, Repr

/-- Go on from a place by names that need not be there. -/
def strayFrom (files : Files) (place : Place) : List Octets → Place
  | [] => place
  | n :: ns =>
    if n = Path.here then strayFrom files place ns
    else if n = Path.above then strayFrom files place.dropLast ns
    else
      let next := match files.place? place n with
        | .ok there => there
        | .error _ => place ++ [n]
      strayFrom files next ns

/-- **The place that a path leads to.** -/
def placeWanted (files : Files) (cwd : Place) (wanted : Wanted) (path : String) :
    Except Errno Place := do
  let p := Latin.octets path
  match wanted with
  | .nothing =>
    if p.isEmpty then .error .noEntry
    else .ok (strayFrom files (if Path.isAbsolute p then [] else cwd) (Path.names p))
  | .all =>
    let place ← files.place? cwd p
    if (files.at? place).isSome then .ok place else .error .noEntry
  | .most =>
    match Path.withoutEnd p with
    | [] => files.place? cwd p
    | kept =>
      let place ← files.place? cwd kept
      let isOther := (files.at? place).any (!·.isDirectory)
      if kept.length < p.length && isOther then .error .notDirectory else .ok place

/-- Where links lead. -/
def readlink : Work Unit := do
  let s ← Work.switches
    { plain := "femnqsvz"
      long := [("canonicalize", 'f', .nothing), ("canonicalize-existing", 'e', .nothing),
        ("canonicalize-missing", 'm', .nothing), ("no-newline", 'n', .nothing),
        ("quiet", 'q', .nothing), ("silent", 's', .nothing), ("verbose", 'v', .nothing),
        ("zero", 'z', .nothing)] }
  if s.words.isEmpty then Work.misuse "missing operand"
  if s.has 'n' && 1 < s.words.length then
    Work.say "readlink: ignoring --no-newline with multiple arguments\n"
  let ending := if s.has 'n' && s.words.length = 1 then "" else lineEnd s
  s.words.forM fun path => do
    let found ← Work.view fun files cwd => match s.last? "fem" with
      | none => do
        let place ← files.placeOfLink? cwd (Latin.octets path)
        match files.at? place with
        | some ⟨.link target, _, _⟩ => .ok (Latin.text target)
        | some _ => .error .invalid
        | none => .error .noEntry
      | some c =>
        (placeWanted files cwd (if c = 'f' then .most else if c = 'e' then .all else .nothing)
          path).map pathOf
    match found with
    | .ok target => Work.print (target ++ ending)
    | .error e =>
      Work.blame 1
      if s.last? "vqs" = some 'v' then Work.complain (shown path ++ ": " ++ e.text)

/-- A path from one place to another. -/
def between (start place : Place) : String :=
  let shared := ((start.zip place).takeWhile fun (a, b) => a = b).length
  let names := List.replicate (start.length - shared) Path.above ++ place.drop shared
  if names.isEmpty then "." else Latin.text ([Path.separator].intercalate names)

/-- Where paths lead. -/
def realpath : Work Unit := do
  let s ← Work.switches
    { plain := "emLPqsz"
      long := [("canonicalize-existing", 'e', .nothing), ("canonicalize-missing", 'm', .nothing),
        ("logical", 'L', .nothing), ("physical", 'P', .nothing), ("quiet", 'q', .nothing),
        ("strip", 's', .nothing), ("no-symlinks", 's', .nothing), ("zero", 'z', .nothing),
        ("relative-to", 'r', .value), ("relative-base", 'b', .value)] }
  if s.words.isEmpty then Work.misuse "missing operand"
  let wanted : Wanted := match s.last? "em" with
    | some 'e' => .all
    | some _ => .nothing
    | none => .most
  let start? ← Work.view fun files cwd => (s.get? 'r').bind fun path =>
    (placeWanted files cwd wanted path).toOption
  s.words.forM fun path => do
    match ← Work.view fun files cwd => placeWanted files cwd wanted path with
    | .ok place =>
      Work.print ((match start? with
        | some start => between start place
        | none => pathOf place) ++ lineEnd s)
    | .error e =>
      Work.blame 1
      if !s.has 'q' then Work.complain (shown path ++ ": " ++ e.text)

/-! ## Fresh names -/

/-- Characters that a number chooses. -/
def chosen : Nat → Nat → List Char
  | 0, _ => []
  | count + 1, n =>
    let cs := "ABCDEFGHIJKLMNOPQRSTUVWXYZabcdefghijklmnopqrstuvwxyz0123456789".toList
    cs.getD (n % 62) 'A' :: chosen count (n / 62 + 7 * n)

/-- Make a file or a directory with a name that is free. -/
def makeFresh (before after : List Char) (count : Nat) (directory dry : Bool) :
    Nat → Nat → Work (Except Errno String)
  | 0, _ => pure (.error .exists_)
  | fuel + 1, seed => do
    let path := String.ofList (before ++ chosen count seed ++ after)
    let made ← Work.change fun files cwd mask => do
      let place ← files.newPlace? cwd (Latin.octets path)
      if dry then .ok ((), files)
      else if directory then .ok ((), files.put place .directory (Files.masked 448 mask))
      else .ok ((), files.put place (.plain []) (Files.masked 384 mask))
    match made with
    | .ok () => pure (.ok path)
    | .error e =>
      if e = .exists_ then makeFresh before after count directory dry fuel (seed + 1)
      else if dry then pure (.ok path)
      else pure (.error e)

/-- **Make a file or a directory with a fresh name.** -/
def mktemp : Work Unit := do
  let s ← Work.switches
    { plain := "dqut", valued := "p"
      long := [("directory", 'd', .nothing), ("quiet", 'q', .nothing), ("dry-run", 'u', .nothing),
        ("suffix", 's', .value), ("tmpdir", 'p', .maybe)] }
  if 1 < s.words.length then Work.misuse "too many templates"
  let c := (← get).call
  let usual := match c.get? "TMPDIR" with
    | some dir => if dir.isEmpty then "/tmp" else dir
    | none => "/tmp"
  let under (dir : String) (t : String) : String :=
    if dir.toList.getLast? = some '/' then dir ++ t else dir ++ "/" ++ t
  let template := match s.words with
    | [] => under (((s.get? 'p').filter (!·.isEmpty)).getD usual) "tmp.XXXXXXXXXX"
    | t :: _ =>
      if s.has 't' then under usual t
      else match s.get? 'p' with
        | some dir => under (if dir.isEmpty then usual else dir) t
        | none => t
  let backwards := template.toList.reverse
  let ending := backwards.takeWhile (· != 'X')
  let count := ((backwards.drop ending.length).takeWhile (· = 'X')).length
  let template := template ++ (s.get? 's').getD ""
  if count < 3 then Work.fail ("too few X's in template " ++ quoted template)
  let before := (backwards.drop (ending.length + count)).reverse
  let after := ending.reverse ++ ((s.get? 's').getD "").toList
  let seed ← Work.ask (Play.look fun pid m => 1000003 * pid.toNat + m.files.nodes.size)
  match ← makeFresh before after count (s.has 'd') (s.has 'u') 1000 seed with
  | .ok path => Work.printLine path
  | .error e =>
    if s.has 'q' then Work.leave 1
    else Work.fail ("failed to create " ++ (if s.has 'd' then "directory" else "file")
      ++ " via template " ++ quoted template ++ ": " ++ e.text)

end NestedSession.Rehearsal.Program
