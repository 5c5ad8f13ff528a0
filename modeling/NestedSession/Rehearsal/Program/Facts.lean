import NestedSession.Rehearsal.Program.Calendar
import NestedSession.Rehearsal.Program.Printing
import NestedSession.Rehearsal.Program.Test
import NestedSession.Rehearsal.Program.Work

/-!
# Rehearsal/Program/Facts — programs that say how things are

    date uname arch id whoami groups logname hostname nproc tty sync users
    echo printf test [

Every process is the owner's of all files, and no terminal is there.
-/

namespace NestedSession.Rehearsal.Program

/-! ## Time -/

/-- What the time is. -/
def date : Work Unit := do
  let s ← Work.switches
    { plain := "uR", valued := "drfs", attached := "I"
      long := [("date", 'd', .value), ("reference", 'r', .value), ("universal", 'u', .nothing),
        ("utc", 'u', .nothing), ("rfc-email", 'R', .nothing), ("iso-8601", 'I', .maybe),
        ("rfc-3339", '3', .value)] }
  let form? := s.words.find? fun w => w.toList.head? = some '+'
  if 1 < s.words.length then Work.misuse ("extra operand " ++ quoted (s.words.getD 1 ""))
  if let (none, w :: _) := (form?, s.words) then Work.fail ("invalid date " ++ quoted w)
  let now := Calendar.Moment.ofNanoseconds (← Work.ask Play.now)
  let moment ← match s.get? 'd', s.get? 'r' with
    | some text, _ =>
      match Calendar.moment? now text with
      | some moment => pure moment
      | none => Work.fail ("invalid date " ++ quoted text)
    | none, some path =>
      match ← Work.view fun files cwd => files.find cwd (Latin.octets path) with
      | .ok node => pure (Calendar.Moment.ofNanoseconds node.changed)
      | .error e => Work.fail (shown path ++ ": " ++ e.text)
    | none, none => pure now
  let detail (word : String) : String :=
    if "hours".toList.isPrefixOf word.toList then "%Y-%m-%dT%H+00:00"
    else if "minutes".toList.isPrefixOf word.toList then "%Y-%m-%dT%H:%M+00:00"
    else if "seconds".toList.isPrefixOf word.toList then "%Y-%m-%dT%H:%M:%S+00:00"
    else if "ns".toList.isPrefixOf word.toList then "%Y-%m-%dT%H:%M:%S,%N+00:00"
    else "%Y-%m-%d"
  let form := match form?, s.get? 'I' with
    | some form, _ => String.ofList (form.toList.drop 1)
    | none, some word => detail word
    | none, none =>
      if s.has 'R' then "%a, %d %b %Y %H:%M:%S +0000"
      else if s.has '3' then "%Y-%m-%d %H:%M:%S+00:00"
      else "%a %b %e %H:%M:%S UTC %Y"
  Work.printLine (moment.write form)

/-! ## The system and its user -/

/-- Refuse words behind the switches. -/
def refuseWords (words : List String) : Work Unit := do
  match words with
  | [] => pure ()
  | w :: _ => Work.misuse ("extra operand " ++ quoted w)

/-- What is said of the system. -/
def systemFacts : List (Char × String) :=
  [('s', "Linux"), ('n', "localhost"), ('r', "6.1.0"), ('v', "#1 SMP"), ('m', "x86_64"),
    ('o', "GNU/Linux")]

/-- What the system is. -/
def uname : Work Unit := do
  let s ← Work.switches
    { plain := "asnrvmpio"
      long := [("all", 'a', .nothing), ("kernel-name", 's', .nothing), ("nodename", 'n', .nothing),
        ("kernel-release", 'r', .nothing), ("kernel-version", 'v', .nothing),
        ("machine", 'm', .nothing), ("processor", 'p', .nothing),
        ("hardware-platform", 'i', .nothing), ("operating-system", 'o', .nothing)] }
  refuseWords s.words
  let wanted := if s.has 'a' then systemFacts
    else if s.1.isEmpty then systemFacts.take 1
    else systemFacts.filter fun (c, _) => s.has c
  let more := if s.has 'a' then [] else ["p", "i"].filter fun c => c.toList.any s.has
  Work.printLine (" ".intercalate (wanted.map (·.2) ++ more.map fun _ => "unknown"))

/-- A line that takes no words. -/
def fact (line : String) : Work Unit := do
  let s ← Work.switches {}
  refuseWords s.words
  Work.printLine line

/-- Who the user is. -/
def identity : Work Unit := do
  let s ← Work.switches
    { plain := "agGnruzZ"
      long := [("group", 'g', .nothing), ("groups", 'G', .nothing), ("name", 'n', .nothing),
        ("real", 'r', .nothing), ("user", 'u', .nothing), ("zero", 'z', .nothing)] }
  let stranger := s.words.filter fun w => w != "root" && w != "0"
  stranger.forM fun w => Work.complain (quoted w ++ ": no such user")
  let single := (s.last? "ugG").isSome
  if !single && (s.has 'n' || s.has 'r') then
    Work.fail "cannot print only names or real IDs in default format"
  let known := s.words.length - stranger.length
  (List.range (if s.words.isEmpty then 1 else known)).forM fun _ =>
    Work.printLine (if single then (if s.has 'n' then "root" else "0")
      else "uid=0(root) gid=0(root) groups=0(root)")

/-- That nobody has logged in. -/
def logname : Work Unit := do
  let s ← Work.switches {}
  refuseWords s.words
  Work.fail "no login name"

/-- That there is no terminal. -/
def tty : Work Unit := do
  let s ← Work.switches
    { plain := "s", long := [("silent", 's', .nothing), ("quiet", 's', .nothing)] } 2
  if let w :: _ := s.words then Work.misuse ("extra operand " ++ quoted w) 2
  if !s.has 's' then Work.printLine "not a tty"
  Work.blame 1

/-- Nothing, for all is written already. -/
def nothing : Work Unit := pure ()

/-! ## Words -/

/-- Write words, with escapes only if asked. -/
def echo : Work Unit := do
  let words := (← get).call.arguments
  let isSwitch (w : String) : Bool :=
    match w.toList with
    | '-' :: c :: cs => (c :: cs).all fun c => c = 'n' || c = 'e' || c = 'E'
    | _ => false
  let switches := words.takeWhile isSwitch
  let letters := switches.flatMap fun w => w.toList.drop 1
  let text := " ".intercalate (words.drop switches.length)
  let escapes := (letters.filter fun c => c = 'e' || c = 'E').getLast? = some 'e'
  let (cs, goesOn) := if escapes then Printing.unescaped text.toList else (text.toList, true)
  Work.print (String.ofList (if letters.contains 'n' || !goesOn then cs else cs ++ ['\n']))

/-- Write words in a form. -/
def printf : Work Unit := do
  match (← get).call.arguments with
  | [] => Work.misuse "missing operand"
  | format :: words =>
    let filling := Printing.printed format words
    Work.print filling.text
    filling.warnings.reverse.forM Work.complain
    match filling.fault with
    | some why => Work.complain why
    | none => pure ()

/-- Whether a condition holds. -/
def test (closed : Bool) : Work Unit := do
  let words := (← get).call.arguments
  if closed && words.getLast? != some "]" then Work.fail "missing ']'" 2
  let words := if closed then words.dropLast else words
  match ← Work.view fun files cwd => Test.holds ⟨files, cwd⟩ words with
  | .ok true => pure ()
  | .ok false => Work.blame 1
  | .error why => Work.fail why 2

end NestedSession.Rehearsal.Program
