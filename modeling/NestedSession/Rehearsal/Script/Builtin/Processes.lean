import NestedSession.Rehearsal.Script.Builtin.Basic

/-!
# Rehearsal/Script/Builtin/Processes — signals and jobs

    kill trap wait jobs fg bg times ulimit
-/

namespace NestedSession.Rehearsal.Builtin

/-! ## Signals -/

/-- The names of the signals from zero on, which stands for the end of the script. -/
def signalNames : List String :=
  ["EXIT", "HUP", "INT", "QUIT", "ILL", "TRAP", "ABRT", "BUS", "FPE", "KILL", "USR1", "SEGV",
    "USR2", "PIPE", "ALRM", "TERM", "16", "CHLD", "CONT", "STOP", "TSTP", "TTIN", "TTOU", "URG",
    "XCPU", "XFSZ", "VTALRM", "PROF", "WINCH", "IO", "PWR", "SYS", "32", "33", "RTMIN"]
  ++ (List.range 15).map (fun n => "RTMIN+" ++ toString (n + 1))
  ++ (List.range 14).map (fun n => "RTMAX-" ++ toString (14 - n)) ++ ["RTMAX"]

/-- The name of a signal. -/
def signalName (n : Nat) : String := signalNames.getD n (toString n)

/-- The signal that a word means, by its number or by its name in any letters. -/
def signal? (least : Nat) (word : String) : Option Nat :=
  let cs := word.toList
  if !cs.isEmpty && cs.all Char.isDigit then
    let n := (Number.digits 10 cs).1
    if n < signalNames.length then some n else none
  else
    let name := String.ofList (cs.map Char.toUpper)
    let n := signalNames.idxOf name
    if least ≤ n && n < signalNames.length then some n else none

/-! ## Jobs -/

/-- The job that a word behind a sign means. -/
def jobOf (word : String) : Scene Job := do
  let jobs := (← get).jobs
  let need (found : Option Job) (why : String) : Scene Job :=
    match found with
    | some job => pure job
    | none => Scene.fail why
  match word.toList.drop 1 with
  | [] | ['+'] | ['%'] => need jobs.head? "No current job"
  | ['-'] => need jobs[1]? "No previous job"
  | cs =>
    if cs.all Char.isDigit then
      let n := (Number.digits 10 cs).1
      need (jobs.find? (·.number == n)) ("No such job: " ++ word)
    else Scene.fail ("No such job: " ++ word)

/-- The process or the group that a word means. -/
def targetOf (word : String) : Scene Int := do
  match word.toList with
  | '%' :: _ => pure (-((((← jobOf word).processes.head?).map (·.1.toNat)).getD 0 : Int))
  | '-' :: cs => pure (-((← number (String.ofList cs)) : Int))
  | _ => pure (← number word)

/-- Send a signal to what words mean. -/
def killAll (sig : Nat) (words : List String) : Scene Nat :=
  words.foldlM (fun code word => do
    let target ← targetOf word
    match ← Scene.lift (Play.call fun pid m => m.kill pid target sig) with
    | .ok () => pure code
    | .error e =>
      Scene.warn (e.text ++ "\n")
      pure 1) 0

/-- How `kill` is used. -/
def killUsage : String :=
  "Usage: kill [-s sigspec | -signum | -sigspec] [pid | job]... or\nkill -l [exitstatus]"

/-- Show the names of the signals, or of the one that a status tells of. -/
def killNames : List String → Scene Nat
  | [] => do
    Scene.print "0\n"
    (signalNames.drop 1).forM fun name => Scene.print (name ++ "\n")
    pure 0
  | word :: _ => do
    let n ← number word
    let n := if 128 < n then n - 128 else n
    if 0 < n && n < signalNames.length then
      Scene.print (signalName n ++ "\n")
      pure 0
    else Scene.fail ("invalid signal number or exit status: " ++ word)

/-- **Send a signal.** -/
def kill : Builtin := fun _ words => do
  let usual (words : List String) : Scene Nat :=
    if words.isEmpty then Scene.fail killUsage else killAll Signal.term.number words
  match words with
  | [] => Scene.fail killUsage
  | word :: rest =>
    match word.toList with
    | '-' :: cs =>
      match signal? 1 (String.ofList cs) with
      | some sig => if rest.isEmpty then Scene.fail killUsage else killAll sig rest
      | none =>
        let (letters, rest) ← switches "l" "s" words
        let said := letters.filterMap fun (c, value) => if c = 's' then some value else none
        let sigs ← said.mapM fun value =>
          match signal? 1 value with
          | some sig => pure sig
          | none => Scene.fail ("invalid signal number or name: " ++ value)
        if letters.any (·.1 == 'l') then
          if sigs.isEmpty then killNames rest else Scene.fail killUsage
        else match sigs.getLast? with
          | some sig => if rest.isEmpty then Scene.fail killUsage else killAll sig rest
          | none => usual rest
    | _ => usual words

/-- Say what to do on one signal; nothing said leaves it to the system. -/
def trapOne (action : Option String) (sig : Nat) : Scene Unit := do
  let others := (← get).traps.filter (·.1 != sig)
  let traps := match action with
    | some text => (sig, text) :: others
    | none => others
  modify fun sh => { sh with traps }
  if sig != 0 then
    match action with
    | some text => Scene.heedSignal sig text.isEmpty (!text.isEmpty)
    | none => Scene.heedSignal sig false false

/-- Say what to do on signals, up to the first word that means none. -/
def trapAll (action : Option String) : List String → Scene Nat
  | [] => pure 0
  | word :: rest =>
    match signal? 0 word with
    | some sig => do
      trapOne action sig
      trapAll action rest
    | none => do
      Scene.say 2 ("trap: " ++ word ++ ": bad trap\n")
      pure 1

/-- **Say what to do on signals**, or show it. -/
def trap : Builtin := fun _ words => do
  let (_, words) ← switches "" "" words
  match words with
  | [] =>
    let traps := (← get).traps.mergeSort fun a b => a.1 ≤ b.1
    traps.forM fun (sig, action) =>
      Scene.print ("trap -- " ++ quote action ++ " " ++ signalName sig ++ "\n")
    pure 0
  | word :: rest =>
    if rest.isEmpty || (signal? 0 word).isSome then trapAll none words
    else trapAll (if word = "-" then none else some word) rest

/-! ## Waiting -/

/-- What ends a wait: a child's end, a signal that is caught, or that there is nothing to wait
for. -/
inductive Tiding where
  | ended (pid : Pid) (status : Int32)
  | signal (sig : Nat)
  | nobody

/-- Wait for a child or a signal. -/
def tidings : Scene Tiding := Scene.lift <| Play.await fun self m =>
  let struck := ((m.process? self).map (·.pending)).getD [] |>.filter (· != Machine.childSignal)
  match m.reap self none with
  | some (some (pid, status), m) => some (.ended pid status, m)
  | some (none, m) => some (.nobody, m)
  | none => struck.getLast?.map fun sig => (.signal sig, m)

/-- Wait for jobs; the signal that ended the wait early is the answer. -/
def waitOn (isWanted : Job → Bool) (mourns : Bool) : Nat → Scene (Option Nat)
  | 0 => pure none
  | fuel + 1 => do
    let wanted := (← get).jobs.filter isWanted
    if wanted.all Scene.isOver then pure none
    else match ← tidings with
      | .nobody => pure none
      | .signal sig => pure (some sig)
      | .ended pid status =>
        Scene.receive pid status (mourns && wanted.any fun job => job.processes.any (·.1 == pid))
        waitOn isWanted mourns fuel

/-- Remember that how a job ended was told. -/
def tell (number : Nat) : Scene Unit := modify fun sh =>
  { sh with jobs := sh.jobs.map fun job =>
      if job.number = number then { job with told := true } else job }

/-- Wait for what each word means. -/
def waitEach (code : Nat) : List String → Scene Nat
  | [] => pure code
  | word :: rest => do
    let found ← if word.toList.head? = some '%' then do pure (some (← jobOf word)) else do
      let n ← number word
      pure ((← get).jobs.find? fun job => job.processes.getLast?.any (·.1.toNat == n))
    match found with
    | none => waitEach code rest
    | some job =>
      match ← waitOn (·.number == job.number) true Play.rounds with
      | some sig => pure (128 + sig)
      | none =>
        let ended := (← get).jobs.find? (·.number == job.number)
        tell job.number
        waitEach ((ended.map Scene.codeOfJob).getD code) rest

/-- **Wait for jobs**, or for all of them. -/
def wait : Builtin := fun _ words => do
  let (_, words) ← switches "" "" words
  if words.isEmpty then
    match ← waitOn (fun _ => true) false Play.rounds with
    | some sig => pure (128 + sig)
    | none =>
      modify fun sh => { sh with jobs := sh.jobs.map fun job => { job with told := true } }
      pure 0
  else waitEach 127 words

/-- What is said of how a job is doing. -/
def stateOf (job : Job) : String :=
  if !Scene.isOver job then "Running"
  else match job.processes.getLast?.bind (·.2) with
    | none => "Done"
    | some status =>
      let sig := signalOf status
      let code := codeOf status
      if sig != 0 then Scene.mourned sig
      else if code = 0 then "Done" else "Done(" ++ toString code ++ ")"

/-- Show a job: with the numbers of its processes, or only the first of them. -/
def showJob (withPids onlyPid : Bool) (job : Job) : Scene Unit := do
  let jobs := (← get).jobs
  let pid := ((job.processes.head?).map (·.1.toNat)).getD 0
  if onlyPid then Scene.print (toString pid ++ "\n")
  else
    let place := jobs.findIdx (·.number == job.number)
    let sign := if place = 0 then "+" else if place = 1 then "-" else " "
    let head := "[" ++ toString job.number ++ "] " ++ sign ++ " "
    let head := head ++ (if withPids then toString pid ++ " " else "") ++ stateOf job
    let padding := String.ofList (List.replicate (33 - head.length) ' ')
    let others := job.processes.drop 1
    let behind := if withPids then
        String.join (others.map fun (n, _) =>
          "\n |\n      " ++ toString n.toNat ++ " ")
      else String.join (others.map fun _ => " | ")
    Scene.print (head ++ padding ++ behind ++ "\n")
    if Scene.isOver job then
      modify fun sh => { sh with jobs := sh.jobs.filter (·.number != job.number) }

/-- **Show jobs**; those that are over are forgotten. -/
def jobs : Builtin := fun _ words => do
  let (letters, words) ← switches "lp" "" words
  let last := letters.getLast?.map (·.1)
  let show_ := showJob (last = some 'l') (last = some 'p')
  if words.isEmpty then
    Scene.collect Play.rounds
    (← get).jobs.forM show_
  else words.forM fun word => do show_ (← jobOf word)
  pure 0

/-- Bring a job to the front, which no script can. -/
def resume : Builtin := fun _ words => do
  let (_, words) ← switches "" "" words
  let _ ← jobOf (words.headD "%")
  Scene.fail ("job " ++ words.headD "(null)" ++ " not created under job control")

/-! ## What is used up -/

/-- Show how much time was used up. -/
def times : Builtin := fun _ _ => do
  Scene.print "0m0.000000s 0m0.000000s\n0m0.000000s 0m0.000000s\n"
  pure 0

/-- What is limited: a letter, its name in a list, and the usual limit. -/
def limits : List (Char × String × String) :=
  [('t', "time(seconds)        ", "unlimited"), ('f', "file(blocks)         ", "unlimited"),
    ('d', "data(kbytes)         ", "unlimited"), ('s', "stack(kbytes)        ", "8192"),
    ('c', "coredump(blocks)     ", "0"), ('m', "memory(kbytes)       ", "unlimited"),
    ('l', "locked memory(kbytes) ", "8192"), ('p', "process              ", "unlimited"),
    ('n', "nofiles              ", "1048576"), ('v', "vmemory(kbytes)      ", "unlimited"),
    ('w', "locks                ", "unlimited"), ('r', "rtprio               ", "0")]

/-- Show limits.  A limit that is set changes nothing. -/
def ulimit : Builtin := fun _ words => do
  let (letters, words) ← switches "HSatfdscmlpnvwr" "" words
  if letters.any (·.1 == 'a') then
    limits.forM fun (_, name, value) => Scene.print (name ++ value ++ "\n")
  else if words.isEmpty then
    let kind := ((letters.filter fun (c, _) => c != 'H' && c != 'S').getLast?.map (·.1)).getD 'f'
    Scene.print (((limits.lookup kind).map (·.2)).getD "unlimited" ++ "\n")
  else if 1 < words.length then Scene.fail "too many arguments"
  else
    let word := words.headD ""
    if word != "unlimited" && !word.toList.all Char.isDigit then Scene.fail "bad number"
  pure 0

end NestedSession.Rehearsal.Builtin
