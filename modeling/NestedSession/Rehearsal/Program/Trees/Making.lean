import NestedSession.Rehearsal.Program.Trees.Basic

/-!
# Rehearsal/Program/Trees/Making — programs that make files and remove them

    mkdir rmdir rm touch truncate chmod ln
-/

namespace NestedSession.Rehearsal.Program

/-! ## Directories -/

/-- The paths that lead to a path, the shortest first, and itself. -/
def leadingPaths (path : String) : List String :=
  let names := (path.toList.splitOn '/')
  let paths := (List.range names.length).filterMap fun n =>
    if (names.getD n []).isEmpty then none
    else some (String.ofList (['/'].intercalate (names.take (n + 1))))
  if paths.isEmpty then [path] else paths

/-- Make a directory. -/
def makeOne (path : String) (mode : Nat → Nat) : Work (Except Errno Unit) :=
  Work.change fun files cwd mask =>
    (files.makeDir cwd (Latin.octets path) (mode mask)).map fun files => ((), files)

/-- Make directories. -/
def mkdir : Work Unit := do
  let s ← Work.switches
    { plain := "pvZ", valued := "m"
      long := [("parents", 'p', .nothing), ("mode", 'm', .value), ("verbose", 'v', .nothing)] }
  if s.words.isEmpty then Work.misuse "missing operand"
  let last : Nat → Nat ← match s.get? 'm' with
    | none => pure fun mask => Rights.without 0o777 mask
    | some text =>
      match Rights.changed 0 true 0o777 text with
      | none => Work.fail ("invalid mode " ++ quoted text)
      | some mode => pure fun _ => mode
  let report (path : String) : Work Unit :=
    if s.has 'v' then Work.printLine ("mkdir: created directory " ++ quoted path) else pure ()
  let refuse (path : String) (e : Errno) : Work Unit :=
    Work.complain ("cannot create directory " ++ quoted path ++ ": " ++ e.text)
  s.words.forM fun path => do
    if s.has 'p' then
      let steps := leadingPaths path
      let rec go : List String → Work Unit
        | [] => pure ()
        | step :: rest => do
          let mode := if rest.isEmpty then last else fun mask => Rights.without 0o777 mask ||| 0o300
          match ← makeOne step mode with
          | .ok () =>
            report step
            go rest
          | .error e =>
            match ← Work.find step true with
            | .ok found =>
              if found.isDirectory then go rest
              else refuse step (if rest.isEmpty then e else .notDirectory)
            | .error _ => refuse step e
      go steps
    else
      match ← makeOne path last with
      | .ok () => report path
      | .error e => refuse path e

/-- Remove an empty directory. -/
def removeDirectory (path : String) : Work (Except Errno Unit) :=
  Work.change fun files cwd _ => do
    let f ← Found.of? files cwd path false
    if !f.isDirectory then .error .notDirectory
    else if (trimmed path).reverse.head? = some '.' && lastPart path = "." then .error .invalid
    else if !(files.namesAt f.place).isEmpty then .error .notEmpty
    else .ok ((), files.remove f.place)

/-- Remove empty directories. -/
def rmdir : Work Unit := do
  let s ← Work.switches
    { plain := "pv"
      long := [("parents", 'p', .nothing), ("verbose", 'v', .nothing),
        ("ignore-fail-on-non-empty", 'i', .nothing)] }
  if s.words.isEmpty then Work.misuse "missing operand"
  let rec go (what path : String) : Nat → Work Unit
    | 0 => pure ()
    | fuel + 1 => do
      if s.has 'v' then Work.printLine ("rmdir: removing directory, " ++ quoted path)
      match ← removeDirectory path with
      | .ok () =>
        let above := leadingPart path
        let goesOn := s.has 'p' && above != "." && above != "/"
        if goesOn then go "failed to remove directory " above fuel
      | .error e =>
        if !(s.has 'i' && e = .notEmpty) then
          Work.complain (what ++ quoted path ++ ": " ++ e.text)
  s.words.forM fun path => go "failed to remove " path (path.length + 1)

/-! ## Removing -/

/-- Ask before something is done, if questions are asked at all: whether the answer is yes. -/
def agrees (isAsked : Bool) (question : String) : Work Bool := do
  if !isAsked then return true
  Work.say ((← Work.name) ++ ": " ++ question ++ "? ")
  match ← Work.ask (Play.await fun pid m => m.readLine pid 0) with
  | .ok (b :: _) => pure (b = 0x79 || b = 0x59)
  | _ => pure false

/-- How files are removed. -/
structure Removal where
  recursive : Bool
  empty : Bool
  forced : Bool
  asking : Bool
  reporting : Bool

/-- Remove what was found, with all below it. -/
def removeFound (r : Removal) : Nat → Found → Work Bool
  | 0, _ => pure false
  | fuel + 1, f => do
    let children ← Work.view fun files _ => f.children files
    let remove (report : String) : Work Bool := do
      let _ ← Work.manage "" fun files _ _ => .ok (files.remove f.place)
      if r.reporting then Work.printLine (report ++ quoted f.path)
      pure true
    if f.isDirectory then
      let enters ← agrees (r.asking && !children.isEmpty)
        ("descend into directory " ++ quoted f.path)
      if !enters then pure false
      else
        let removed ← children.mapM (removeFound r fuel)
        if !removed.all id then pure false
        else if ← agrees r.asking ("remove directory " ++ quoted f.path) then
          remove "removed directory "
        else pure false
    else if ← agrees r.asking ("remove " ++ f.kind ++ " " ++ quoted f.path) then remove "removed "
    else pure false

/-- **Remove files.** -/
def rm : Work Unit := do
  let s ← Work.switches
    { plain := "dfiIrRv"
      long := [("force", 'f', .nothing), ("recursive", 'r', .nothing), ("dir", 'd', .nothing),
        ("verbose", 'v', .nothing), ("interactive", 'i', .maybe),
        ("one-file-system", 'x', .nothing),
        ("no-preserve-root", 'N', .nothing), ("preserve-root", 'P', .maybe)] }
  let r : Removal :=
    { recursive := s.has 'r' || s.has 'R', empty := s.has 'd', forced := s.last? "fi" = some 'f'
      asking := s.last? "fi" = some 'i', reporting := s.has 'v' }
  if s.words.isEmpty && !r.forced then Work.misuse "missing operand"
  let size ← Work.view fun files _ => files.entries.length
  s.words.forM fun path => do
    let refuse (e : Errno) : Work Unit :=
      Work.complain ("cannot remove " ++ quoted path ++ ": " ++ e.text)
    match ← Work.find path false with
    | .error e => if !(r.forced && (e = .noEntry || e = .notDirectory)) then refuse e
    | .ok f =>
      if !f.isDirectory then
        let _ ← removeFound r 1 f
      else if !r.recursive then
        if !r.empty then refuse .isDirectory
        else if (← Work.view fun files _ => files.namesAt f.place).isEmpty then
          let _ ← removeFound r 1 f
        else refuse .notEmpty
      else if f.place.isEmpty then
        Work.complain "it is dangerous to operate recursively on '/'"
        Work.complain "use --no-preserve-root to override this failsafe"
      else if lastPart path = "." || lastPart path = ".." then
        Work.complain ("refusing to remove '.' or '..' directory: skipping " ++ quoted path)
      else
        let _ ← removeFound r (size + 1) f

/-! ## Marks and rights -/

/-- Make files, or mark them as changed. -/
def touch : Work Unit := do
  let s ← Work.switches
    { plain := "acfhm", valued := "drt"
      long := [("no-create", 'c', .nothing), ("date", 'd', .value), ("reference", 'r', .value),
        ("no-dereference", 'h', .nothing), ("time", 'x', .value)] }
  if s.words.isEmpty then Work.misuse "missing file operand"
  let time? ← match s.get? 'r' with
    | none => pure none
    | some path =>
      match ← Work.find path true with
      | .ok f => pure (some f.node.changed)
      | .error e => Work.fail ("failed to get attributes of " ++ quoted path ++ ": " ++ e.text)
  s.words.forM fun path => do
    let p := Latin.octets path
    let opened : Except Errno Unit ←
      if s.has 'c' || s.has 'h' then pure (.ok ())
      else Work.change fun files cwd mask =>
        (files.reach cwd p mask).map fun (files, _) => ((), files)
    match opened with
    | .error e =>
      if e != .isDirectory then
        Work.complain ("cannot touch " ++ quoted path ++ ": " ++ e.text)
    | .ok () => pure ()
    let refused := match opened with
      | .error e => e != .isDirectory
      | .ok () => false
    if !refused && !(s.has 'a' && !s.has 'm') then
      match ← Work.change fun files cwd _ => do
        let f ← Found.of? files cwd path (!s.has 'h')
        .ok ((), files.stamp f.number (time?.getD files.clock)) with
      | .ok () => pure ()
      | .error e =>
        if !(s.has 'c' && e = .noEntry) then
          Work.complain ("setting times of " ++ quoted path ++ ": " ++ e.text)

/-- Set the lengths of files. -/
def truncate : Work Unit := do
  let s ← Work.switches
    { plain := "co", valued := "sr"
      long := [("no-create", 'c', .nothing), ("size", 's', .value), ("reference", 'r', .value)] }
  if !s.has 's' && !s.has 'r' then Work.misuse "you must specify either '--size' or '--reference'"
  if s.words.isEmpty then Work.misuse "missing file operand"
  let text := (s.get? 's').getD "0"
  let sign := text.toList.head?.filter fun c => "+-<>/%".toList.contains c
  let word := if sign.isSome then String.ofList (text.toList.drop 1) else text
  let count ← match count? word with
    | some n => pure n
    | none => Work.fail ("Invalid number: " ++ quoted text)
  s.words.forM fun path => do
    let isThere := (← Work.find path true).toOption.isSome
    if isThere || !s.has 'c' then
      let _ ← Work.manage ("cannot open " ++ quoted path ++ " for writing") fun files cwd mask => do
        let (files, number) ← files.reach cwd (Latin.octets path) mask
        match (files.node? number).map FileNode.content with
        | some (FileContent.plain bs) =>
          let size := match sign with
            | some '+' => bs.length + count
            | some '-' => bs.length - count
            | some '<' => min bs.length count
            | some '>' => max bs.length count
            | _ => count
          let bs := bs.take size ++ List.replicate (size - bs.length) 0
          .ok (files.setContent number (.plain bs))
        | _ => .ok files

/-- Whether a word takes rights away, although it looks like a switch. -/
def isMinusMode (word : String) : Bool :=
  match word.toList with
  | '-' :: c :: cs => (c :: cs).all fun c => "rwxXstugoa,+=-01234567".toList.contains c
  | _ => false

/-- Change the rights of one file. -/
def changeRights (s : Work.Switched) (text : String) (f : Found) : Work Unit := do
  let mask ← Work.ask (Play.look fun pid m => ((m.process? pid).map (·.mask)).getD 0)
  match Rights.changed mask f.isDirectory f.node.mode text with
  | none => Work.misuse ("invalid mode: " ++ quoted text)
  | some mode =>
    let _ ← Work.manage "" fun files _ _ => .ok (files.setMode f.number mode)
    let shownAs (n : Nat) : String := Rights.octal 4 n ++ " (" ++ Rights.letters n ++ ")"
    if mode != f.node.mode then
      if s.has 'v' || s.has 'c' then
        Work.printLine ("mode of " ++ quoted f.path ++ " changed from " ++ shownAs f.node.mode
          ++ " to " ++ shownAs mode)
    else if s.has 'v' then
      Work.printLine ("mode of " ++ quoted f.path ++ " retained as " ++ shownAs mode)

/-- Change the rights of files. -/
def chmod : Work Unit := do
  let d ← get
  let given := d.call.arguments
  let minus := given.find? isMinusMode
  let others := match minus with
    | some mode => given.erase mode
    | none => given
  set { d with call := { d.call with words := d.call.name :: others } }
  let s ← Work.switches
    { plain := "cfvR"
      long := [("changes", 'c', .nothing), ("silent", 'f', .nothing), ("quiet", 'f', .nothing),
        ("verbose", 'v', .nothing), ("recursive", 'R', .nothing), ("reference", 'r', .value)] }
  let (text, words) := match minus with
    | some text => (text, s.words)
    | none => (s.words.headD "", s.words.drop 1)
  if minus.isNone && s.words.isEmpty then Work.misuse "missing operand"
  if words.isEmpty then Work.misuse ("missing operand after " ++ quoted text)
  if (Rights.changed 0 false 0 text).isNone then Work.misuse ("invalid mode: " ++ quoted text)
  words.forM fun path => do
    match ← Work.find path true with
    | .ok f =>
      let all ← if s.has 'R' then Work.view fun files _ => f.all files else pure [f]
      all.forM fun f => if f.node.isLink then pure () else changeRights s text f
    | .error e =>
      Work.blame 1
      if !s.has 'f' then
        if ((← Work.find path false).toOption).isSome then
          Work.complain ("cannot operate on dangling symlink " ++ quoted path)
        else Work.complain ("cannot access " ++ quoted path ++ ": " ++ e.text)

/-! ## Links -/

/-- Make a link from one path to another. -/
def linkOne (s : Work.Switched) (target path : String) : Work Unit := do
  let symbolic := s.has 's'
  let kind := if symbolic then "symbolic" else "hard"
  let failed := "failed to create " ++ kind ++ " link " ++ quoted path
  let source ← Work.find target (s.has 'L')
  let old ← Work.find path false
  let isSame := match ← Work.find target false, old with
    | .ok a, .ok b => a.place == b.place || (!symbolic && a.number == b.number)
    | _, _ => false
  let refusal? : Option String := match source with
    | .error e =>
      if symbolic then none else some ("failed to access " ++ quoted target ++ ": " ++ e.text)
    | .ok f =>
      if !symbolic && f.isDirectory then some (target ++ ": hard link not allowed for directory")
      else none
  match refusal? with
  | some why => Work.complain why
  | none =>
    if symbolic && target.isEmpty then
      Work.complain (failed ++ " -> " ++ quoted target ++ ": " ++ Errno.noEntry.text)
    else if s.has 'f' && isSame then
      Work.complain (quoted target ++ " and " ++ quoted path ++ " are the same file")
    else
      let text ← Work.view fun files cwd =>
        let start := placeWanted files cwd .nothing (leadingPart path)
        match s.has 'r', start, placeWanted files cwd .nothing target with
        | true, .ok start, .ok place => between start place
        | _, _, _ => target
      let done ← Work.manage failed fun files cwd _ => do
        let files := match s.has 'f', old with
          | true, .ok f => if f.isDirectory then files else files.remove f.place
          | _, _ => files
        let place ← files.newPlace? cwd (Latin.octets path)
        if symbolic then .ok (files.put place (.link (Latin.octets text)) 0o777)
        else match source with
          | .ok f => .ok (files.name place f.number)
          | .error e => .error e
      if done && s.has 'v' then
        Work.printLine (quoted path ++ (if symbolic then " -> " else " => ") ++ quoted text)

/-- **Make links.** -/
def ln : Work Unit := do
  let s ← Work.switches
    { plain := "finsvLPrT", valued := "t"
      long := [("force", 'f', .nothing), ("no-dereference", 'n', .nothing),
        ("symbolic", 's', .nothing), ("verbose", 'v', .nothing), ("logical", 'L', .nothing),
        ("relative", 'r', .nothing), ("no-target-directory", 'T', .nothing),
        ("target-directory", 't', .value)] }
  let isLinkOnly : Bool ← if s.has 'n' && s.words.length = 2 then do
      pure (((← Work.find (s.words.getD 1 "") false).toOption).any (·.node.isLink))
    else pure false
  if s.words.length = 1 && !s.has 't' && !s.has 'T' then
    let target := s.words.headD ""
    linkOne s target ("./" ++ lastPart target)
  else
    let s : Work.Switched := if isLinkOnly then (('T', "") :: s.1, s.2) else s
    let (targets, goal) ← goalOf s
    targets.forM fun target => linkOne s target (goal.pathFor target)

end NestedSession.Rehearsal.Program
