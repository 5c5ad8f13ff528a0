import NestedSession.Number.Count
import NestedSession.Rehearsal.Script.Sum

/-!
# Rehearsal/Program/Calendar — days and their names

Time is counted in nanoseconds from the beginning of 1970, and days have 86400 seconds.  A year
begins in March here, so that the day that some years have more is its last.
-/

namespace NestedSession.Rehearsal.Calendar

/-- A day of the calendar. -/
structure Day where
  year : Int
  /-- From one on. -/
  month : Nat
  /-- From one on. -/
  day : Nat
  deriving Repr

/-- The number of a day, from the first of 1970 on. -/
def Day.number (d : Day) : Int :=
  let year := if d.month ≤ 2 then d.year - 1 else d.year
  let era := year / 400
  let yearOfEra := year % 400
  let month := (d.month + 9) % 12
  let dayOfYear : Int := (153 * month + 2) / 5 + d.day - 1
  era * 146097 + yearOfEra * 365 + yearOfEra / 4 - yearOfEra / 100 + dayOfYear - 719468

/-- **The day of a number.** -/
def Day.ofNumber (number : Int) : Day :=
  let n := number + 719468
  let era := n / 146097
  let dayOfEra := n % 146097
  let yearOfEra := (dayOfEra - dayOfEra / 1460 + dayOfEra / 36524 - dayOfEra / 146096) / 365
  let dayOfYear := dayOfEra - (365 * yearOfEra + yearOfEra / 4 - yearOfEra / 100)
  let month := (5 * dayOfYear + 2) / 153
  let day := dayOfYear - (153 * month + 2) / 5 + 1
  let month := if month < 10 then month + 3 else month - 9
  ⟨yearOfEra + era * 400 + (if month ≤ 2 then 1 else 0), month.toNat, day.toNat⟩

/-- A moment of the calendar. -/
structure Moment where
  /-- Seconds from the beginning of 1970. -/
  seconds : Int
  nanoseconds : Nat

namespace Moment

/-- The moment of a number of nanoseconds. -/
def ofNanoseconds (n : Nat) : Moment := ⟨n / 1000000000, n % 1000000000⟩

/-- The day. -/
def day (m : Moment) : Day := .ofNumber (m.seconds / 86400)

/-- The seconds of the day. -/
def rest (m : Moment) : Nat := (m.seconds % 86400).toNat

/-- The hour. -/
def hour (m : Moment) : Nat := m.rest / 3600

/-- The minute. -/
def minute (m : Moment) : Nat := m.rest / 60 % 60

/-- The second. -/
def second (m : Moment) : Nat := m.rest % 60

/-- The day of the week, from Sunday on. -/
def weekday (m : Moment) : Nat := ((m.seconds / 86400 + 4) % 7).toNat

/-- The day of the year, from zero on. -/
def dayOfYear (m : Moment) : Nat :=
  (m.seconds / 86400 - (Day.number ⟨m.day.year, 1, 1⟩)).toNat

end Moment

/-- The days of the week. -/
def weekdays : List String :=
  ["Sunday", "Monday", "Tuesday", "Wednesday", "Thursday", "Friday", "Saturday"]

/-- The months. -/
def months : List String :=
  ["January", "February", "March", "April", "May", "June", "July", "August", "September",
    "October", "November", "December"]

/-- The first letters of a name. -/
def short (name : String) : String := String.ofList (name.toList.take 3)

/-- A number, filled up on the left. -/
def padded (fill : Char) (width : Nat) (n : Int) : String :=
  let ds := Nat.toDigits 10 n.natAbs
  (if n < 0 then "-" else "") ++ String.ofList (List.replicate (width - ds.length) fill ++ ds)

/-- How many days a year has. -/
def yearLength (year : Int) : Int :=
  Day.number ⟨year + 1, 1, 1⟩ - Day.number ⟨year, 1, 1⟩

/-- The year to which a week belongs, and its number; most of a week's days are in its year. -/
def Moment.week (m : Moment) : Int × Nat :=
  let monday := (m.weekday + 6) % 7
  let thursday : Int := (m.dayOfYear : Int) - monday + 3
  if thursday < 0 then
    let year := m.day.year - 1
    (year, ((thursday + yearLength year) / 7 + 1).toNat)
  else if yearLength m.day.year ≤ thursday then (m.day.year + 1, 1)
  else (m.day.year, (thursday / 7 + 1).toNat)

/-- What a letter of a form stands for: a number with its fill and width, or a text. -/
inductive Part where
  | number (fill : Char) (width : Nat) (n : Int)
  | text (t : String)
  /-- Another form. -/
  | form (t : String)

/-- What a letter of a form stands for. -/
def part? (m : Moment) (c : Char) : Option Part :=
  let two (n : Nat) : Option Part := some (.number '0' 2 n)
  let blank (n : Nat) : Option Part := some (.number ' ' 2 n)
  let half := if m.hour % 12 = 0 then 12 else m.hour % 12
  let weekday := weekdays.getD m.weekday ""
  let month := months.getD (m.day.month - 1) ""
  match c with
  | 'Y' => some (.number '0' 1 m.day.year)
  | 'C' => some (.number '0' 2 (m.day.year / 100))
  | 'y' => some (.number '0' 2 (m.day.year % 100))
  | 'm' => two m.day.month
  | 'd' => two m.day.day
  | 'e' => blank m.day.day
  | 'H' => two m.hour
  | 'k' => blank m.hour
  | 'I' => two half
  | 'l' => blank half
  | 'M' => two m.minute
  | 'S' => two m.second
  | 'N' => some (.number '0' 9 m.nanoseconds)
  | 's' => some (.number '0' 1 m.seconds)
  | 'j' => some (.number '0' 3 (m.dayOfYear + 1))
  | 'u' => some (.number '0' 1 (if m.weekday = 0 then 7 else m.weekday))
  | 'w' => some (.number '0' 1 m.weekday)
  | 'q' => some (.number '0' 1 ((m.day.month + 2) / 3))
  | 'U' => two ((m.dayOfYear + 7 - m.weekday) / 7)
  | 'W' => two ((m.dayOfYear + 7 - (m.weekday + 6) % 7) / 7)
  | 'V' => two m.week.2
  | 'G' => some (.number '0' 1 m.week.1)
  | 'g' => some (.number '0' 2 (m.week.1 % 100))
  | 'A' => some (.text weekday)
  | 'a' => some (.text (short weekday))
  | 'B' => some (.text month)
  | 'b' | 'h' => some (.text (short month))
  | 'p' => some (.text (if m.hour < 12 then "AM" else "PM"))
  | 'P' => some (.text (if m.hour < 12 then "am" else "pm"))
  | 'Z' => some (.text "UTC")
  | 'z' => some (.text "+0000")
  | 'n' => some (.text "\n")
  | 't' => some (.text "\t")
  | '%' => some (.text "%")
  | 'D' | 'x' => some (.form "%m/%d/%y")
  | 'F' => some (.form "%Y-%m-%d")
  | 'T' | 'X' => some (.form "%H:%M:%S")
  | 'R' => some (.form "%H:%M")
  | 'r' => some (.form "%I:%M:%S %p")
  | 'c' => some (.form "%a %b %e %H:%M:%S %Y")
  | _ => none

/-- Write a moment in a form; forms stand for other forms at most so often. -/
def writeOn (m : Moment) : Nat → Nat → List Char → List Char
  | 0, _, cs => cs
  | _, 0, cs => cs
  | _ + 1, _, [] => []
  | deep + 1, fuel + 1, '%' :: rest =>
    let flags := rest.takeWhile fun c => "-_0^#+".toList.contains c
    let behind := rest.drop flags.length
    let digits := behind.takeWhile Char.isDigit
    let behind := behind.drop digits.length
    let width? := if digits.isEmpty then none else some (Number.digits 10 digits).1
    match behind with
    | [] => '%' :: flags ++ digits
    | c :: more =>
      let flag? := (flags.filter fun c => "-_0".toList.contains c).getLast?
      let raised (t : List Char) : List Char := if flags.contains '^' then t.map Char.toUpper else t
      let filled (fill : Char) (t : List Char) : List Char :=
        let width := if flag? = some '-' then 0 else width?.getD 0
        List.replicate (width - t.length) fill ++ t
      let blank := if flag? = some '0' then '0' else ' '
      let written := match part? m c with
        | some (.text t) => filled blank (raised t.toList)
        | some (.form t) => filled blank (raised (writeOn m deep (t.length + 1) t.toList))
        | some (.number fill width n) =>
          if c = 'N' then
            let all := (padded '0' 9 n).toList
            all.take (width?.getD 9) ++ List.replicate (width?.getD 9 - 9) '0'
          else
            let fill := match flag? with
              | some '_' => ' '
              | some '0' => '0'
              | _ => fill
            let width := if flag? = some '-' then 0 else width?.getD width
            (padded fill width n).toList
        | none => '%' :: flags ++ digits ++ [c]
      written ++ writeOn m (deep + 1) fuel more
  | deep + 1, fuel + 1, c :: rest => c :: writeOn m (deep + 1) fuel rest

/-- **Write a moment in a form.** -/
def Moment.write (m : Moment) (form : String) : String :=
  String.ofList (writeOn m 3 (form.length + 1) form.toList)

/-- The number that digits are, all of them and no more than so many. -/
def field? (least most : Nat) (cs : List Char) : Option Nat :=
  if least ≤ cs.length && cs.length ≤ most && cs.all Char.isDigit then some (Number.digits 10 cs).1
  else none

/-- The seconds of the day that a text is. -/
def clockTime? (cs : List Char) : Option Nat :=
  let cs := if cs.getLast? = some 'Z' then cs.dropLast else cs
  match cs.splitOn ':' with
  | [h, m] => do
    let h ← field? 1 2 h
    let m ← field? 2 2 m
    if h < 24 && m < 60 then some (3600 * h + 60 * m) else none
  | [h, m, s] => do
    let h ← field? 1 2 h
    let m ← field? 2 2 m
    let s ← field? 2 2 s
    if h < 24 && m < 60 && s ≤ 60 then some (3600 * h + 60 * m + s) else none
  | _ => none

/-- The day that a text is. -/
def day? (cs : List Char) : Option Day :=
  match cs.splitOn '-' with
  | [y, m, d] => do
    let y ← field? 4 4 y
    let m ← field? 1 2 m
    let d ← field? 1 2 d
    let day : Day := ⟨y, m, d⟩
    let again := Day.ofNumber day.number
    if 1 ≤ m && m ≤ 12 && again.day = d && again.month = m then some day else none
  | _ => none

/-- **The moment that a text is**, with what is now. -/
def moment? (now : Moment) (text : String) : Option Moment :=
  let cs := text.toList
  match cs with
  | '@' :: rest =>
    let whole := rest.takeWhile (· != '.')
    let fraction := rest.drop (whole.length + 1)
    match Number.whole? (some 10) whole with
    | some n =>
      if fraction.all Char.isDigit then
        some ⟨n, (Number.digits 10 ((fraction ++ List.replicate 9 '0').take 9)).1⟩
      else none
    | none => none
  | _ =>
    let bare := if " UTC".toList.isSuffixOf cs then cs.take (cs.length - 4) else cs
    let isBreak (c : Char) : Bool := c = ' ' || c = 'T'
    let words := (bare.splitBy fun a b => isBreak a == isBreak b).filter fun w =>
      !w.head?.any isBreak
    let midnight := now.seconds - now.rest
    match words.map String.ofList with
    | [] | ["today"] | ["now"] => some (if cs.isEmpty then ⟨midnight, 0⟩ else now)
    | ["yesterday"] => some { now with seconds := now.seconds - 86400 }
    | ["tomorrow"] => some { now with seconds := now.seconds + 86400 }
    | [w] =>
      match day? w.toList, clockTime? w.toList with
      | some d, _ => some ⟨86400 * d.number, 0⟩
      | none, some t => some ⟨midnight + t, 0⟩
      | none, none => none
    | [d, t] => do
      let d ← day? d.toList
      let t ← clockTime? t.toList
      some ⟨86400 * d.number + t, 0⟩
    | _ => none

end NestedSession.Rehearsal.Calendar
