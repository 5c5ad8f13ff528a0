import NestedSession.CommandLine.Switch
import NestedSession.CommandLine.Program
import NestedSession.Rehearsal.Hosting

/-!
# Main — the program on a real terminal

Sessions are rehearsed: the compositor is a script, played on a stage that holds copies of the files
and directories named on the command line and in the settings.  Log files are copied back.
-/

namespace NestedSession.Terminal

open Rehearsal

/-- A file name for the system's own calls. -/
def nameOf (p : Path) : String := Utf8.lossy p

/-- Octets as they are stored. -/
def ofBytes (bytes : ByteArray) : Octets := bytes.toList

/-- The variables of this process. -/
def processVariables : IO Variables := do
  let bytes ← try IO.FS.readBinFile "/proc/self/environ" catch _ => pure ByteArray.empty
  let settings := (ofBytes bytes).splitOn 0
  return Variables.ofList <| settings.filterMap fun word =>
    let name := word.takeWhile (· != 0x3D)
    if name.isEmpty || name.length = word.length then none
    else some (name, word.drop (name.length + 1))

/-- Copy a file or a directory, without what the directory holds, to a stage.  A directory can be
opened and not read. -/
def copyIn (st : Stage) (p : Path) : IO Stage := do
  match ← (IO.FS.readBinFile (nameOf p)).toBaseIO with
  | .ok bytes =>
    let above := p.take (p.length - (Path.fileName? p).elim 0 List.length)
    let st := if above.isEmpty then st else (Disk.makeDirs st above).2
    return (Disk.replace st p (ofBytes bytes)).2
  | .error _ =>
    match ← (IO.FS.Handle.mk (nameOf p) .read).toBaseIO with
    | .ok _ => return (Disk.makeDirs st p).2
    | .error _ => return st

/-- Copy a file from a stage. -/
def copyOut (st : Stage) (p : Path) : IO Unit := do
  match Disk.content st p with
  | .ok content =>
    let write : IO Unit := do
      IO.FS.createDirAll (nameOf (p.take (p.length - (Path.fileName? p).elim 0 List.length)))
      IO.FS.writeBinFile (nameOf p) ⟨content.toArray⟩
    if let .error why ← write.toBaseIO then
      IO.eprintln (nameOf p ++ ": " ++ toString why)
  | .error _ => return ()

/-- The stage for a request. -/
def stageFor (q : ProgramRequest) (vars : Variables) : IO Stage := do
  let here ← IO.currentDir
  let st := Stage.empty (Path.names (Utf8.encode here.toString))
  let st ← copyIn st q.settings
  match q.command, Settings.effective q.settings (Disk.content st q.settings) vars with
  | .run request, .ok settings =>
    let words := settings.session.wrapper ++ [settings.session.compositor]
    let named := request.sourceDir :: request.buildDir :: words.map Utf8.encode
    named.foldlM copyIn st
  | _, _ => return st

/-- How often a held session is looked at. -/
def patience : Nat := 1000000

/-- Tell why a command line is not carried out. -/
def explain (m : Misuse) : IO Unit := do
  match m with
  | .help => IO.print helpText
  | .nothingSaid => IO.eprint helpText
  | .version => IO.println Misuse.versionText
  | m => IO.eprint (m.complaint?.getD "")

/-- Do what a command line asks for. -/
def carryOut (q : ProgramRequest) (vars : Variables) : IO UInt32 := do
  let colours := vars.wantColours (← (← IO.getStdout).isTty)
  let st ← stageFor q vars
  match q.perform vars colours patience st with
  | none => return 134
  | some (outcome, st) =>
    match q.command, Settings.effective q.settings (Disk.content st q.settings) vars with
    | .run _, .ok settings =>
      for name in ["log.stdout", "log.stderr"] do
        copyOut st (Path.joinText (Utf8.encode settings.logs.dir) name)
    | _, _ => pure ()
    IO.print outcome.shown
    IO.eprint (outcome.complaint colours)
    return UInt32.ofNat outcome.exitCode

end NestedSession.Terminal

open NestedSession in
/-- **The program.** -/
def main (words : List String) : IO UInt32 := do
  let vars ← Terminal.processVariables
  match ProgramRequest.ofWords (Utf8.encode "phosh-itest" :: words.map Utf8.encode) vars with
  | .error m => do
    Terminal.explain m
    return UInt32.ofNat m.exitCode
  | .ok q => Terminal.carryOut q vars
