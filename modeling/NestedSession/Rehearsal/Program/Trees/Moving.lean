import NestedSession.Rehearsal.Program.Trees.Basic

/-!
# Rehearsal/Program/Trees/Moving — programs that copy and move files

    cp mv

A file that goes where another is takes its place: a copy keeps the node that is there and fills it
anew, a move puts its own node there.  A directory goes only where there is none, or an empty one.
-/

namespace NestedSession.Rehearsal.Program

/-- Whether one place lies within another, or is it. -/
def liesWithin (place other : Place) : Bool := place.isPrefixOf other

/-- A place that a new file would have. -/
def placeToBe (path : String) : Work (Except Errno Place) := Work.view fun files cwd => do
  let p := Latin.octets path
  let names := Path.names (Path.withoutEnd p)
  let dir ← files.walkPath cwd p names.dropLast true
  .ok (dir ++ names.getLast?.toList)

/-- Why one file cannot take the place of another. -/
def collision? (f : Found) (isDirectory : Bool) (old : Found) : Option String :=
  if isDirectory && !old.isDirectory then
    some ("cannot overwrite non-directory " ++ quoted old.path ++ " with directory "
      ++ quoted f.path)
  else if !isDirectory && old.isDirectory then
    some ("cannot overwrite directory " ++ quoted old.path ++ " with non-directory")
  else none

/-- That two paths lead to one file. -/
def sameFile (path other : String) : String :=
  quoted path ++ " and " ++ quoted other ++ " are the same file"

/-! ## Copies -/

/-- How files are copied. -/
structure Copying where
  recursive : Bool
  /-- Links are followed. -/
  follows : Bool
  keepsRights : Bool
  keepsOld : Bool
  forced : Bool
  /-- Only what is newer goes. -/
  newer : Bool
  reporting : Bool
  /-- Names are given instead of copies. -/
  links : Option Bool

/-- Copy what a file holds to a path. -/
def copyContent (c : Copying) (f : Found) (path : String) : Work Bool := do
  let refuse (e : Errno) : Work Bool := do
    Work.complain ("cannot create regular file " ++ quoted path ++ ": " ++ e.text)
    pure false
  match ← Work.contentOf (if f.path = "-" then "./-" else f.path) with
  | .error t =>
    Work.complain ("cannot open " ++ quoted f.path ++ " for reading: " ++ t.errno.text)
    pure false
  | .ok bs =>
    match ← Work.change fun files cwd mask => do
      let p := Latin.octets path
      let (after, number) ← match files.reach cwd p mask with
        | .ok reached => .ok reached
        | .error e => .error (if e = .isDirectory then .notDirectory else e)
      let isNew := files.nodes.size < after.nodes.size
      let mode := if c.keepsRights then f.node.mode else Rights.without f.node.mode mask
      let after := if isNew || c.keepsRights then after.setMode number mode else after
      match (after.node? number).map FileNode.content with
      | some (FileContent.device .full) => .error .noSpace
      | some (FileContent.device _) => .ok ((), after)
      | _ =>
        let after := after.setContent number (.plain bs)
        .ok ((), if c.keepsRights then after.stamp number f.node.changed else after) with
    | .ok () => pure true
    | .error e => refuse e

/-- Copy a file to a path; a directory goes with all that it holds. -/
def copyTo (c : Copying) (isFirst : Bool) : Nat → String → String → Work Unit
  | 0, _, _ => pure ()
  | fuel + 1, source, path => do
    match ← Work.find source c.follows with
    | .error e => Work.complain ("cannot stat " ++ quoted source ++ ": " ++ e.text)
    | .ok f =>
      let old ← Work.find path (c.follows || !f.node.isLink)
      let bare ← Work.find path false
      let isSame := match old with
        | .ok o => o.number == f.number
        | .error _ => false
      let conflict := old.toOption.bind (collision? f f.isDirectory)
      let report : Work Unit :=
        if c.reporting then Work.printLine (quoted source ++ " -> " ++ quoted path) else pure ()
      let makesWay : Work Unit := match bare with
        | .ok o => do
          let _ ← Work.manage "" fun files _ _ => .ok (files.remove o.place)
        | .error _ => pure ()
      let there := old.toOption.isSome || bare.toOption.isSome
      if f.isDirectory && !c.recursive then
        Work.complain ("-r not specified; omitting directory " ++ quoted source)
      else if isSame && !f.isDirectory && !(c.keepsOld && c.links.isNone) then
        Work.complain (sameFile source path)
      else if there && c.keepsOld && !f.isDirectory then pure ()
      else if let some why := conflict then Work.complain why
      else if f.isDirectory then
        match ← placeToBe path with
        | .error e => Work.complain ("cannot create directory " ++ quoted path ++ ": " ++ e.text)
        | .ok place =>
          let place := (old.toOption.map (·.place)).getD place
          if isFirst && liesWithin f.place place then
            Work.complain ("cannot copy a directory, " ++ quoted source ++ ", into itself, "
              ++ quoted path)
          else
            let isMade ← if old.toOption.isSome then pure true
              else do
                let made ← Work.manage ("cannot create directory " ++ quoted path)
                  fun files cwd mask =>
                    let mode := if c.keepsRights then f.node.mode
                      else Rights.without f.node.mode mask
                    files.makeDir cwd (Latin.octets path) mode
                if made then report
                pure made
            if isMade then
              (← Work.view fun files _ => f.children files).forM fun child =>
                copyTo { c with follows := c.follows } false fuel child.path
                  (Found.pathWithin path (lastPart child.path))
      else if c.newer && (old.toOption.any fun o => f.node.changed ≤ o.node.changed) then pure ()
      else if let some symbolic := c.links then
        if symbolic || c.forced then makesWay
        let kind := if symbolic then "symbolic" else "hard"
        let done ← Work.manage ("cannot create " ++ kind ++ " link " ++ quoted path ++ " to "
            ++ quoted source) fun files cwd _ => do
          let place ← files.newPlace? cwd (Latin.octets path)
          .ok (if symbolic then files.put place (.link (Latin.octets source)) 0o777
            else files.name place f.number)
        if done then report
      else match f.node.content with
        | .link target =>
          makesWay
          let done ← Work.manage ("cannot create symbolic link " ++ quoted path)
            fun files cwd _ => do
              let place ← files.newPlace? cwd (Latin.octets path)
              .ok (files.put place (.link target) 0o777)
          if done then report
        | _ =>
          let dangles := bare.toOption.any (·.node.isLink) && old.toOption.isNone
          if dangles then
            Work.complain ("not writing through dangling symlink " ++ quoted path)
          else if ← copyContent c f path then report

/-- **Copy files.** -/
def cp : Work Unit := do
  let s ← Work.switches
    { plain := "abdfHiLlnPprRsTuvxZ", valued := "tS"
      long := [("archive", 'a', .nothing), ("force", 'f', .nothing), ("link", 'l', .nothing),
        ("dereference", 'L', .nothing), ("no-clobber", 'n', .nothing),
        ("no-dereference", 'P', .nothing), ("recursive", 'r', .nothing),
        ("symbolic-link", 's', .nothing), ("target-directory", 't', .value),
        ("no-target-directory", 'T', .nothing), ("update", 'u', .maybe), ("verbose", 'v', .nothing),
        ("preserve", 'p', .maybe), ("interactive", 'i', .nothing)] }
  let (sources, goal) ← goalOf s
  let recursive := s.has 'r' || s.has 'R' || s.has 'a'
  let c : Copying :=
    { recursive
      follows := s.last? "LPdaH" = some 'L' || ((s.last? "LPda").isNone && !recursive)
      keepsRights := s.has 'p' || s.has 'a'
      keepsOld := s.last? "nfi" = some 'n', forced := s.has 'f', newer := s.has 'u'
      reporting := s.has 'v'
      links := if s.has 'l' then some false else if s.has 's' then some true else none }
  if s.has 'n' then
    Work.say ("cp: warning: behavior of -n is non-portable and may change in future; "
      ++ "use --update=none instead\n")
  let size ← Work.view fun files _ => files.entries.length
  let rec go (done : List String) : List String → Work Unit
    | [] => pure ()
    | source :: rest => do
      let path := goal.pathFor source
      if done.contains path && !(s.has 'n') then
        Work.say ("cp: warning: source file " ++ quoted source ++ " specified more than once\n")
      else copyTo c true (size + 1) source path
      go (path :: done) rest
  go [] sources

/-! ## Moves -/

/-- Move a file to a path. -/
def moveTo (s : Work.Switched) (source path : String) : Work Unit := do
  match ← Work.find source false with
  | .error e => Work.complain ("cannot stat " ++ quoted source ++ ": " ++ e.text)
  | .ok f =>
    let old ← Work.find path false
    let failed := "cannot move " ++ quoted source ++ " to " ++ quoted path
    let keeps := s.last? "nfi" = some 'n'
    let asked := s.last? "nfi" = some 'i'
    match old with
    | .ok o =>
      if o.place = f.place then Work.complain (sameFile source path)
      else if keeps then Work.complain ("not replacing " ++ quoted path)
      else if s.has 'u' && f.node.changed ≤ o.node.changed then pure ()
      else if let some why := collision? f f.isDirectory o then Work.complain why
      else if liesWithin f.place o.place then
        Work.complain ("cannot move " ++ quoted source ++ " to a subdirectory of itself, "
          ++ quoted path)
      else if o.isDirectory && !(← Work.view fun files _ => files.namesAt o.place).isEmpty then
        Work.complain ("cannot overwrite " ++ quoted path ++ ": " ++ Errno.notEmpty.text)
      else
        let goes ← if asked then do
            Work.say ("mv: overwrite " ++ quoted path ++ "? ")
            match ← Work.ask (Play.await fun pid m => m.readLine pid 0) with
            | .ok (b :: _) => pure (b = 0x79 || b = 0x59)
            | _ => pure false
          else pure true
        if goes then
          let _ ← Work.manage failed fun files _ _ => .ok (files.move f.place o.place)
          if s.has 'v' then Work.printLine ("renamed " ++ quoted source ++ " -> " ++ quoted path)
        else Work.blame 1
    | .error .notDirectory =>
      Work.complain ("cannot stat " ++ quoted path ++ ": " ++ Errno.notDirectory.text)
    | .error _ =>
      match ← placeToBe path with
      | .error e => Work.complain (failed ++ ": " ++ e.text)
      | .ok place =>
        if liesWithin f.place place then
          Work.complain ("cannot move " ++ quoted source ++ " to a subdirectory of itself, "
            ++ quoted path)
        else
          let done ← Work.manage failed fun files cwd _ => do
            let place ← files.newPlace? cwd (Latin.octets path)
            if path.toList.getLast? = some '/' && !f.isDirectory then .error .notDirectory
            else .ok (files.move f.place place)
          if done && s.has 'v' then
            Work.printLine ("renamed " ++ quoted source ++ " -> " ++ quoted path)

/-- **Move files.** -/
def mv : Work Unit := do
  let s ← Work.switches
    { plain := "bfinTuvZ", valued := "tS"
      long := [("force", 'f', .nothing), ("interactive", 'i', .nothing),
        ("no-clobber", 'n', .nothing), ("target-directory", 't', .value),
        ("no-target-directory", 'T', .nothing), ("update", 'u', .maybe),
        ("verbose", 'v', .nothing)] }
  let (sources, goal) ← goalOf s
  sources.forM fun source => moveTo s source (goal.pathFor source)

end NestedSession.Rehearsal.Program
