/-!
# System/Signal — processes, and the signals that they are sent
-/

namespace NestedSession

/-- The number of a process. -/
abbrev Pid := UInt32

/-- **The number a signal is sent to**, which is a signed word: the upper half of the numbers cannot
be reached. -/
def Pid.reachable (pid : Pid) : Bool := pid < 2147483648

/-- A signal, by its number. -/
structure Signal where
  number : Nat
  deriving DecidableEq, Repr, Inhabited

namespace Signal

/-- The request to end. -/
def term : Signal := ⟨15⟩

/-- The order to end, which no process can refuse. -/
def kill : Signal := ⟨9⟩

/-- What comes to those who write what nobody reads. -/
def pipe : Signal := ⟨13⟩

/-- The names of the signals from number one on. -/
def names : List String :=
  ["SIGHUP", "SIGINT", "SIGQUIT", "SIGILL", "SIGTRAP", "SIGABRT", "SIGBUS", "SIGFPE", "SIGKILL",
   "SIGUSR1", "SIGSEGV", "SIGUSR2", "SIGPIPE", "SIGALRM", "SIGTERM", "SIGSTKFLT", "SIGCHLD",
   "SIGCONT", "SIGSTOP", "SIGTSTP", "SIGTTIN", "SIGTTOU", "SIGURG", "SIGXCPU", "SIGXFSZ",
   "SIGVTALRM", "SIGPROF", "SIGWINCH", "SIGIO", "SIGPWR", "SIGSYS"]

/-- The name of a signal. -/
def name (s : Signal) : String :=
  if s.number = 0 then "SIG0" else names.getD (s.number - 1) s!"SIG{s.number}"

end Signal

end NestedSession
