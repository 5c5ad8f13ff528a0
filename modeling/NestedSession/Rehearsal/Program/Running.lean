import NestedSession.Rehearsal.Program.Layout
import NestedSession.Rehearsal.Program.Printing
import NestedSession.Rehearsal.Program.Work
import NestedSession.Rehearsal.Script.Builtin.Processes

/-!
# Rehearsal/Program/Running — programs that run programs, and that wait

    env printenv nice nohup setsid timeout xargs sleep kill
-/

namespace NestedSession.Rehearsal.Program

/-- **Become another program**; the fault if that cannot be. -/
def turnInto (co : Company) (words : List String) (environment : List (String × String)) :
    Work Errno := do
  let path := (environment.lookup "PATH").getD usualPath
  match ← Work.view fun files cwd => find files cwd path words true with
  | .ok (name, words) =>
    Work.flush
    Work.ask (Play.change fun pid m => m.renew pid)
    let code ← Work.ask (co.program name ⟨words, environment⟩)
    Work.ask (Play.exit code)
  | .error e => pure e

/-- The code of a program that could not be run. -/
def refusalCode (e : Errno) : Nat := if e = .noEntry then 127 else 126

/-- Become another program, or say why that cannot be. -/
def become (co : Company) (words : List String) (environment : List (String × String))
    (complaint : String) : Work Unit := do
  let e ← turnInto co words environment
  Work.fail (complaint ++ ": " ++ e.text) (refusalCode e)

/-! ## Variables -/

/-- Set a variable among others. -/
def setVariable (name value : String) : List (String × String) → List (String × String)
  | [] => [(name, value)]
  | (n, v) :: rest => if n = name then (n, value) :: rest else (n, v) :: setVariable name value rest

/-- The variables that words set, up to the first that sets none. -/
def settings (environment : List (String × String)) :
    List String → List (String × String) × List String
  | [] => (environment, [])
  | word :: rest =>
    match Builtin.split word with
    | (name, some value) => settings (setVariable name value environment) rest
    | (_, none) => (environment, word :: rest)

/-- Run a program with other variables, or show them. -/
def env (co : Company) : Work Unit := do
  let s ← Work.switches
    { plain := "i0v", valued := "uCS", inOrder := true
      long := [("ignore-environment", 'i', .nothing), ("null", '0', .nothing),
        ("unset", 'u', .value), ("chdir", 'C', .value), ("split-string", 'S', .value),
        ("debug", 'v', .nothing)] } 125
  let c := (← get).call
  let more := ((s.get? 'S').getD "").toList.splitOn ' ' |>.map String.ofList |>.filter (!·.isEmpty)
  let words := more ++ s.words
  let clears := s.has 'i' || words.head? = some "-"
  let words := if words.head? = some "-" then words.drop 1 else words
  let unset := s.1.filterMap fun (c, name) => if c = 'u' then some name else none
  let start := if clears then [] else c.environment.filter fun (n, _) => !unset.contains n
  let (environment, words) := settings start words
  match s.get? 'C' with
  | some dir =>
    match ← Work.view fun files cwd => files.place? cwd (Latin.octets dir) with
    | .ok place => Work.ask (Play.change fun pid m => m.alter pid fun p => { p with cwd := place })
    | .error e => Work.fail ("cannot change directory to " ++ quoted dir ++ ": " ++ e.text) 125
  | none => pure ()
  match words with
  | [] => environment.forM fun (n, v) =>
    Work.print (n ++ "=" ++ v ++ if s.has '0' then "\x00" else "\n")
  | name :: _ => become co words environment (quoted name)

/-- Show the values of variables. -/
def printenv : Work Unit := do
  let s ← Work.switches
    { plain := "0", inOrder := true, long := [("null", '0', .nothing)] } 2
  let ending := if s.has '0' then "\x00" else "\n"
  let environment := (← get).call.environment
  if s.words.isEmpty then
    environment.forM fun (n, v) => Work.print (n ++ "=" ++ v ++ ending)
  else s.words.forM fun n =>
    match environment.lookup n with
    | some v => Work.print (v ++ ending)
    | none => Work.blame 1

/-! ## Manners -/

/-- Run a program that gives way to others. -/
def nice (co : Company) : Work Unit := do
  let c := (← get).call
  let isShort (word : String) : Bool :=
    match word.toList with
    | '-' :: d :: _ => d.isDigit
    | _ => false
  let given := c.arguments
  let words := if given.head?.any isShort then
    "-n" :: String.ofList ((given.headD "").toList.drop 1) :: given.drop 1 else given
  set { (← get) with call := { c with words := c.name :: words } }
  let s ← Work.switches
    { valued := "n", inOrder := true, long := [("adjustment", 'n', .value)] } 125
  let by_ ← match s.get? 'n' with
    | none => pure (10 : Int)
    | some text =>
      match Number.whole? (some 10) text.toList with
      | some n => pure n
      | none => Work.fail ("invalid adjustment " ++ quoted text) 125
  match s.words with
  | [] =>
    if s.has 'n' then Work.misuse "a command must be given with an adjustment" 125
    else
      let n ← Work.ask (Play.look fun pid m => ((m.process? pid).map (·.niceness)).getD 0)
      Work.printLine (toString n)
  | name :: _ =>
    Work.ask (Play.change fun pid m => m.alter pid fun p =>
      { p with niceness := max (-20) (min 19 (p.niceness + by_)) })
    become co s.words c.environment (quoted name)

/-- Let a process ignore a signal. -/
def ignore (sig : Nat) : Work Unit := Work.ask <| Play.change fun pid m => m.alter pid fun p =>
  { p with ignored := sig :: p.ignored.filter (· != sig) }

/-- Run a program that is not struck when the session is over. -/
def nohup (co : Company) : Work Unit := do
  let s ← Work.switches { inOrder := true } 125
  match s.words with
  | [] => Work.misuse "missing operand" 125
  | name :: _ =>
    ignore 1
    become co s.words (← get).call.environment ("failed to run command " ++ quoted name)

/-- Give the process a group of its own. -/
def standAlone : Work Unit :=
  Work.ask (Play.change fun pid m => m.alter pid fun p => { p with group := pid })

/-- Run a program in a group of its own. -/
def setsid (co : Company) : Work Unit := do
  let s ← Work.switches
    { plain := "cfw", inOrder := true
      long := [("ctty", 'c', .nothing), ("fork", 'f', .nothing), ("wait", 'w', .nothing)] }
  match s.words with
  | [] => Work.misuse "no command specified"
  | name :: _ =>
    let environment := (← get).call.environment
    let leads ← Work.ask (Play.look fun pid m => (m.process? pid).any (·.group == pid))
    let run : Work Unit := do
      standAlone
      become co s.words environment ("failed to execute " ++ name)
    if leads || s.has 'f' then
      let d ← get
      let pid ← Work.ask (Play.fork (do
        let (_, d) ← run.run d
        pure d.code))
      if s.has 'w' then
        let ended ← Work.ask (Play.await fun self m => m.reap self (some pid))
        Work.leave ((ended.map fun (_, status) => codeOf status).getD 0)
      else Work.leave 0
    else run

/-! ## Time -/

/-- The span that a word means, in nanoseconds; there is none that is endless. -/
def span? (word : String) : Option (Option Nat) :=
  match Printing.leadingReal word.toList with
  | some (.ratio false n d, rest) =>
    let seconds : Option Nat := match rest with
      | [] | ['s'] => some 1
      | ['m'] => some 60
      | ['h'] => some 3600
      | ['d'] => some 86400
      | _ => none
    seconds.map fun k => some ((n * k * 1000000000 + d - 1) / d)
  | some (.infinite false, rest) => if rest.length < 2 then some none else none
  | _ => none

/-- **Sleep.** -/
def sleep : Work Unit := do
  let s ← Work.switches {}
  if s.words.isEmpty then Work.misuse "missing operand"
  let spans ← s.words.mapM fun word => do
    match span? word with
    | some span => pure (some span)
    | none =>
      Work.complain ("invalid time interval " ++ quoted word)
      pure none
  if spans.any (·.isNone) then Work.referToHelp
  let total := spans.foldl (fun total span =>
    match total, span with
    | some t, some (some n) => some (t + n)
    | _, _ => none) (some 0)
  match total with
  | some n =>
    let now ← Work.ask Play.now
    Work.ask (Play.sleepTill (now + n))
  | none => Work.ask (Play.await fun _ _ => (none : Option (Unit × Machine)))

/-- How a wait for a child ended. -/
inductive Waited where
  | ended (status : Int32)
  | late
  | struck (sig : Nat)

/-- Wait for a child, but not beyond a time. -/
def waitTill (child : Pid) (time : Option Nat) : Work Waited := do
  Work.ask (Play.change fun pid m => m.alter pid fun p => { p with wakes := time })
  let waited ← Work.ask (Play.await fun self m =>
    match m.reap self (some child) with
    | some (some (_, status), m) => some (.ended status, m)
    | some (none, m) => some (.ended 0, m)
    | none =>
      match (m.process? self).bind (·.pending.head?) with
      | some sig => some (.struck sig, m.alter self fun p => { p with pending := p.pending.drop 1 })
      | none => if time.any (· ≤ m.files.clock) then some (.late, m) else none)
  Work.ask (Play.change fun pid m => m.alter pid fun p => { p with wakes := none })
  pure waited

/-- Send a signal to a child, and to the whole group if so asked. -/
def strike (child : Pid) (sig : Nat) (wholeGroup : Bool) : Work Unit := do
  if wholeGroup then ignore sig
  Work.ask <| Play.change fun pid m =>
    let m := m.send child sig
    let m := if wholeGroup then (m.kill pid 0 sig).2 else m
    if sig != 9 && sig != 18 then
      let m := m.send child 18
      if wholeGroup then (m.kill pid 0 18).2 else m
    else m

/-- End as the child did: with its code, or by its signal. -/
def endLike (status : Int32) : Work Unit := do
  let sig := signalOf status
  if sig != 0 then
    Work.flush
    Work.ask (Play.change fun pid m => m.finish pid (signalStatus sig))
  Work.leave (codeOf status)

/-- How a child is watched. -/
structure Watch where
  child : Pid
  /-- Whether the group of the process is struck as well. -/
  wholeGroup : Bool
  /-- Whether the code is that of the child even if it was late. -/
  keepsCode : Bool

/-- Wait for a child, and strike it when time is over; then go on as said. -/
def Watch.until (w : Watch) (isLate : Bool) (sig : Nat) (time : Option Nat)
    (next : Work Unit) : Work Unit := do
  match ← waitTill w.child time with
  | .ended status =>
    if !isLate then endLike status
    else if w.keepsCode || signalOf status = 9 then Work.leave (codeOf status)
    else Work.leave 124
  | .struck sig =>
    strike w.child sig w.wholeGroup
    match ← waitTill w.child none with
    | .ended status => endLike status
    | _ => Work.leave 124
  | .late =>
    strike w.child sig w.wholeGroup
    next

/-- The signal that a word means to `timeout`. -/
def signalNamed? (word : String) : Option Nat :=
  let cs := word.toList.map Char.toUpper
  let cs := if "SIG".toList.isPrefixOf cs then cs.drop 3 else cs
  Builtin.signal? 0 (String.ofList cs)

/-- **Run a program, but not for longer than a span.** -/
def timeout (co : Company) : Work Unit := do
  let s ← Work.switches
    { plain := "v", valued := "ks", inOrder := true
      long := [("foreground", 'F', .nothing), ("preserve-status", 'P', .nothing),
        ("verbose", 'v', .nothing), ("kill-after", 'k', .value), ("signal", 's', .value)] } 125
  let spanOf (word : String) : Work (Option Nat) :=
    match span? word with
    | some span => pure (span.filter (· != 0))
    | none => Work.misuse ("invalid time interval " ++ quoted word) 125
  let later ← match s.get? 'k' with
    | some word => spanOf word
    | none => pure none
  let sig ← match s.get? 's' with
    | some word =>
      match signalNamed? word with
      | some sig => pure sig
      | none => Work.misuse (quoted word ++ ": invalid signal") 125
    | none => pure Signal.term.number
  match s.words with
  | word :: name :: arguments =>
    let span ← spanOf word
    let wholeGroup := !s.has 'F'
    if wholeGroup then standAlone
    let d ← get
    let pid ← Work.ask (Play.fork (do
      let (_, d) ← (become co (name :: arguments) d.call.environment
        ("failed to run command " ++ quoted name)).run d
      pure d.code))
    Work.ask <| Play.change fun pid m => m.alter pid fun p =>
      { p with caught := ([1, 2, 3, 14, 15].filter fun sig => !p.ignored.contains sig) ++ p.caught }
    let now ← Work.ask Play.now
    let w : Watch := ⟨pid, wholeGroup, s.has 'P'⟩
    let patient := w.until true sig none (Work.leave 124)
    w.until false sig (span.map (now + ·)) <|
      match later with
      | none => patient
      | some more => do
        let now ← Work.ask Play.now
        w.until true 9 (some (now + more)) patient
  | _ => Work.referToHelp 125

/-! ## Signals -/

/-- Send a signal to processes. -/
def kill : Work Unit := do
  let words := (← get).call.arguments
  let (sig, words) ← match words with
    | "-s" :: name :: rest => pure (signalNamed? name, rest)
    | "-l" :: name :: _ =>
      match Number.whole? (some 10) name.toList with
      | some n => Work.printLine (Builtin.signalName (n.toNat % 128))
      | none => Work.printLine (toString ((signalNamed? name).getD 0))
      Work.leave 0
    | word :: rest =>
      match word.toList with
      | ['-', '-'] => pure (some 15, rest)
      | '-' :: cs => pure (signalNamed? (String.ofList cs), rest)
      | _ => pure (some 15, words)
    | [] => Work.fail "not enough arguments"
  let rest := if words.head? = some "--" then words.drop 1 else words
  match sig with
  | none => Work.fail "unknown signal"
  | some sig => rest.forM fun word => do
    match Number.whole? (some 10) word.toList with
    | none => Work.complain ("failed to parse argument: '" ++ word ++ "'")
    | some n =>
      match ← Work.ask (Play.call fun pid m => m.kill pid n sig) with
      | .ok () => pure ()
      | .error e => Work.complain ("(" ++ toString n ++ "): " ++ e.text)

end NestedSession.Rehearsal.Program
