import NestedSession.Settings.Fault
import NestedSession.Stream
import NestedSession.System.Fault
import NestedSession.System.Path
import NestedSession.System.Signal

/-!
# Session/Fault — what goes wrong in a session
-/

namespace NestedSession

/-- What goes wrong in a session. -/
inductive SessionFault where
  /-- The settings make no sense. -/
  | settings (fault : SettingsFault)
  /-- There is no work directory. -/
  | workDir (buildDir : Path) (fault : Fault)
  /-- The child did not start. -/
  | spawn (program : String) (fault : Fault)
  /-- An output of the child cannot be read without waiting. -/
  | nonBlocking (stream : Stream) (errno : Errno)
  /-- The session has its child already. -/
  | alreadySpawned (pid : Pid)
  /-- The session has no child. -/
  | notSpawned
  /-- What was to be waited for is already there. -/
  | markerPresent (stream : Stream) (marker : String)
  /-- The session did not become ready. -/
  | startup (status stdout stderr : String)
  /-- What was expected did not show. -/
  | unmet (stream : Stream) (marker outcome : String)
  /-- The child did not get a signal. -/
  | signal (signal : Signal) (pid : Pid) (errno : Errno)
  /-- The system refused something else. -/
  | system (fault : Fault)
  deriving DecidableEq, Repr, Inhabited

namespace SessionFault

/-- The text of a fault. -/
def text : SessionFault → String
  | settings fault => "invalid session config: " ++ fault.text
  | workDir buildDir fault =>
    s!"failed to create session work directory in {buildDir.shown}: {fault.text}"
  | spawn program fault => s!"failed to spawn '{program}': {fault.text}"
  | nonBlocking stream errno =>
    s!"failed to switch {stream.name} pipe to non-blocking mode: {errno.named}"
  | alreadySpawned pid => s!"session already has a running child (pid {pid})"
  | notSpawned => "session has no child process"
  | markerPresent stream marker =>
    s!"{stream.name} already contains {Text.quoted marker} before waiting"
  | startup status stdout stderr =>
    s!"Phosh did not start: exit status: {status}\nstderr: {stderr}\nstdout: {stdout}"
  | unmet stream marker outcome =>
    s!"expected {Text.quoted marker} on {stream.name}: {outcome}"
  | signal sent pid errno => s!"failed to send {sent.name} to pid {pid}: {errno.named}"
  | system fault => "io error: " ++ fault.text

/-- The text of the fault behind a fault. -/
def source : SessionFault → Option String
  | settings fault => some fault.text
  | workDir _ fault | spawn _ fault | system fault => some fault.text
  | nonBlocking _ errno | signal _ _ errno => some errno.named
  | _ => none

end SessionFault

end NestedSession
