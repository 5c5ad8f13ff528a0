import NestedSession.Rehearsal.Script.Expansion

/-!
# Rehearsal/Script/Redirecting — where the descriptors of a command lead

Redirections are followed from left to right, after all their words were expanded.  Where a
descriptor led before is kept under another descriptor, so that it can lead there again.
-/

namespace NestedSession.Rehearsal

/-- A redirection whose word is expanded. -/
inductive Leading where
  | file (fd : Nat) (way : Way) (path : String)
  | copy (fd : Nat) (source : Option Nat)
  | document (fd : Nat) (text : String)

/-- The descriptors that lead elsewhere for now, each with the one that is kept for it. -/
abbrev Kept := List (Nat × Option Nat)

namespace Scene

/-- Expand the word of a redirection. -/
def leadingOf (co : Company) : Redirect → Scene Leading
  | .file fd way name => do
    pure (.file fd way (← textOfWord co name))
  | .copy fd source => pure (.copy fd source)
  | .copyNamed fd name => do
    let fields ← fieldsOfWord co name
    match (fields.headD "").toList with
    | ['-'] => pure (.copy fd none)
    | [c] =>
      if c.isDigit then pure (.copy fd (some (c.toNat - 48)))
      else fail "Syntax error: Bad fd number"
    | _ => fail "Syntax error: Bad fd number"
  | .document fd number isExact => do
    let w := ((← get).documents[number]?).getD []
    if isExact then pure (.document fd (String.ofList (Word.characters w)))
    else pure (.document fd (← textOfDocument co w))

/-- What is said of a file that cannot be opened. -/
def lament (e : Errno) (missing : String) : String :=
  if e = .noEntry || e = .notDirectory then missing else e.text

/-- Open a file, or say why it cannot be. -/
def openPath (path : String) (access : Access) : Scene Nat := do
  let opened ← lift (Play.call fun pid m => m.openFile pid (Latin.octets path) access)
  match opened with
  | .ok fd => pure fd
  | .error e =>
    if access.creates then
      fail ("cannot create " ++ path ++ ": " ++ lament e "Directory nonexistent")
    else fail ("cannot open " ++ path ++ ": " ++ lament e "No such file")

/-- How a file is opened to be written anew, if none may be overwritten. -/
def carefulAccess (path : String) : Scene Access := do
  let found ← lift (Play.view fun files cwd => (files.find cwd (Latin.octets path)).toOption)
  match found with
  | none | some ⟨.plain _, _, _⟩ => pure { Access.replacing with fresh := true }
  | some _ => pure { reads := false, writes := true, creates := true }

/-- How a file is opened. -/
def accessOf (way : Way) (path : String) : Scene Access := do
  match way with
  | .read => pure .reading
  | .write => if (← get).has 'C' then carefulAccess path else pure .replacing
  | .overwrite => pure .replacing
  | .append => pure .appending
  | .update => pure .updating

/-- Keep where a descriptor leads. -/
def keepDescriptor (kept : Kept) (fd : Nat) : Scene Kept := do
  if kept.any (·.1 == fd) then pure kept
  else
    let spare ← lift (Play.call fun pid m => m.reserve pid fd)
    pure ((fd, spare) :: kept)

/-- Let a descriptor lead to what was opened under another one. -/
def settle (kept : Kept) (fd opened : Nat) : Scene Kept := do
  if fd = opened then
    pure (if kept.any (·.1 == fd) then kept else (fd, none) :: kept)
  else
    let kept ← keepDescriptor kept fd
    lift <| Play.change fun pid m => ((m.copy pid opened fd).2).close pid opened
    pure kept

/-- Follow a redirection. -/
def follow (kept : Kept) : Leading → Scene Kept
  | .file fd way path => do
    let opened ← openPath path (← accessOf way path)
    settle kept fd opened
  | .document fd text => do
    let opened ← lift (Play.call fun pid m => m.openDocument pid (Latin.octets text))
    settle kept fd opened
  | .copy fd none => do
    let kept ← keepDescriptor kept fd
    lift <| Play.change fun pid m => m.close pid fd
    pure kept
  | .copy fd (some source) => do
    if fd = source then pure kept
    else
      let isOpen ← lift (Play.look fun pid m => (m.opened? pid source).isSome)
      if !isOpen then fail (toString source ++ ": Bad file descriptor")
      else
        let kept ← keepDescriptor kept fd
        lift <| Play.change fun pid m => (m.copy pid source fd).2
        pure kept

/-- Let the descriptors lead where they led before. -/
def restore (kept : Kept) : Scene Unit := lift <| Play.change fun pid m =>
  kept.foldl (fun m (fd, spare) =>
    match spare with
    | some spare => ((m.copy pid spare fd).2).close pid spare
    | none => m.close pid fd) m

/-- Forget where the descriptors led before. -/
def forget (kept : Kept) : Scene Unit := lift <| Play.change fun pid m =>
  kept.foldl (fun m (_, spare) =>
    match spare with
    | some spare => m.close pid spare
    | none => m) m

/-- Follow redirections; if one cannot be followed, what was kept comes with the failure. -/
def followOn (kept : Kept) : List Leading → Scene (Bool × Kept)
  | [] => pure (true, kept)
  | l :: rest => do
    match ← result (follow kept l) with
    | .ok kept => followOn kept rest
    | .error _ => pure (false, kept)

/-- **Follow redirections.**  What was kept comes with the answer whether all could be followed. -/
def redirect (co : Company) (rs : List Redirect) : Scene (Bool × Kept) := do
  let leadings ← rs.mapM (leadingOf co)
  if leadings.isEmpty then pure (true, []) else followOn [] leadings

end Scene

end NestedSession.Rehearsal
