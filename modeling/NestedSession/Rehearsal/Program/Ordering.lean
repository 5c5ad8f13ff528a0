import NestedSession.Rehearsal.Program.Lines

/-!
# Rehearsal/Program/Ordering — programs that sort lines and take parts of them

    sort uniq cut

Lines are compared key by key, each in its own manner; what no key tells apart is compared as a
whole at last, so that the order never depends on how it was before unless that is asked for.
-/

namespace NestedSession.Rehearsal.Program

/-! ## Manners of comparing -/

/-- How keys are compared. -/
structure Comparing where
  /-- What they are taken for: `n` numbers, `g` any numbers, `h` sizes, `V` versions, `M` months. -/
  kind : Option Char
  reversed : Bool
  folds : Bool
  dictionary : Bool
  seenOnly : Bool

namespace Comparing

/-- The manner that letters say. -/
def ofLetters (cs : List Char) : Comparing :=
  ⟨(cs.filter fun c => "nghVM".toList.contains c).head?, cs.contains 'r', cs.contains 'f',
    cs.contains 'd', cs.contains 'i'⟩

/-- A number that a text begins with, as a sign and a fraction. -/
def numberOf (cs : List Char) : Bool × Nat × Nat × List Char :=
  let cs := cs.dropWhile fun c => c = ' ' || c = '\t'
  let (negative, cs) := match cs with
    | '-' :: rest => (true, rest)
    | rest => (false, rest)
  let whole := cs.takeWhile Char.isDigit
  let behind := cs.drop whole.length
  let fraction := match behind with
    | '.' :: rest => rest.takeWhile Char.isDigit
    | _ => []
  let rest := if behind.head? = some '.' then behind.drop (fraction.length + 1) else behind
  (negative, (Number.digits 10 (whole ++ fraction)).1, Nat.pow 10 fraction.length, rest)

/-- Compare two numbers. -/
def numbers (a b : List Char) : Ordering :=
  let (aNegative, an, ad, _) := numberOf a
  let (bNegative, bn, bd, _) := numberOf b
  let signed (negative : Bool) (n : Nat) : Int := if negative then -(n : Int) else n
  compare (signed aNegative an * bd) (signed bNegative bn * ad)

/-- The size of a unit behind a number. -/
def unitRank (cs : List Char) : Nat :=
  match cs with
  | c :: _ =>
    let n := if c = 'k' then 0 else "KMGTPEZY".toList.idxOf c
    if n < 8 then n + 1 else 0
  | [] => 0

/-- Compare two sizes: by their signs, their units, and their numbers. -/
def sizes (a b : List Char) : Ordering :=
  let (aNegative, an, _, aRest) := numberOf a
  let (bNegative, bn, _, bRest) := numberOf b
  let rank (negative : Bool) (n : Nat) (rest : List Char) : Int :=
    let r : Int := if n = 0 then 0 else (unitRank rest : Int) + 1
    if negative then -r else r
  (compare (rank aNegative an aRest) (rank bNegative bn bRest)).then (numbers a b)

/-- Compare two texts of which some parts are numbers. -/
def versions : Nat → List Char → List Char → Ordering
  | 0, _, _ => .eq
  | _, [], [] => .eq
  | _, [], _ => .lt
  | _, _, [] => .gt
  | fuel + 1, a :: as, b :: bs =>
    if a.isDigit && b.isDigit then
      let x := (a :: as).takeWhile Char.isDigit
      let y := (b :: bs).takeWhile Char.isDigit
      (compare (Number.digits 10 x).1 (Number.digits 10 y).1).then
        (versions fuel ((a :: as).drop x.length) ((b :: bs).drop y.length))
    else
      let rank (c : Char) : Nat :=
        if c = '~' then 0 else if c.isDigit then 1 else if c.isAlpha then c.toNat else c.toNat + 256
      (compare (rank a) (rank b)).then (versions fuel as bs)

/-- The number of a month, or zero. -/
def monthRank (cs : List Char) : Nat :=
  let name := ((cs.dropWhile fun c => c = ' ' || c = '\t').take 3).map Char.toUpper
  let months := ["JAN", "FEB", "MAR", "APR", "MAY", "JUN", "JUL", "AUG", "SEP", "OCT", "NOV", "DEC"]
  let n := months.idxOf (String.ofList name)
  if n < 12 then n + 1 else 0

/-- Compare two texts character by character. -/
def texts (a b : List Char) : Ordering := compareOfLessAndEq (String.ofList a) (String.ofList b)

/-- What of a key is looked at. -/
def seen (m : Comparing) (cs : List Char) : List Char :=
  let cs := if m.dictionary then cs.filter fun c => c.isAlphanum || c = ' ' || c = '\t' else cs
  let cs := if m.seenOnly then cs.filter fun c => 32 ≤ c.toNat && c.toNat < 127 else cs
  if m.folds then cs.map Char.toUpper else cs

/-- **Compare two keys.** -/
def keys (m : Comparing) (a b : List Char) : Ordering :=
  let ordering := match m.kind with
    | some 'n' | some 'g' => numbers a b
    | some 'h' => sizes a b
    | some 'V' => versions (a.length + b.length + 1) a b
    | some 'M' => compare (monthRank a) (monthRank b)
    | _ => texts (m.seen a) (m.seen b)
  if m.reversed then ordering.swap else ordering

end Comparing

/-! ## Keys -/

/-- Where a key begins or ends. -/
structure KeyPlace where
  field : Nat
  char : Nat
  skipsBlanks : Bool

/-- A key of a line. -/
structure SortKey where
  start : KeyPlace
  stop : Option KeyPlace
  manner : Comparing

namespace SortKey

/-- Whether a character is a blank. -/
def isBlank (c : Char) : Bool := c = ' ' || c = '\t' || c = '\n'

/-- A line from behind so many fields on. -/
def behindFields (separator : Option Char) : Nat → List Char → List Char
  | 0, cs => cs
  | n + 1, cs =>
    let rest := match separator with
      | some c => (cs.dropWhile (· != c)).drop 1
      | none => (cs.dropWhile isBlank).dropWhile fun c => !isBlank c
    behindFields separator n rest

/-- The number of characters of a line up to the end of so many fields. -/
def lengthOfFields (separator : Option Char) (n : Nat) (cs : List Char) : Nat :=
  match separator with
  | none => cs.length - (behindFields none n cs).length
  | some c =>
    let behind := behindFields separator (n - 1) cs
    (cs.length - behind.length) + (behind.takeWhile (· != c)).length

/-- **The key of a line.** -/
def of (k : SortKey) (separator : Option Char) (cs : List Char) : List Char :=
  let skip (p : KeyPlace) (cs : List Char) : List Char :=
    if p.skipsBlanks then cs.dropWhile isBlank else cs
  let field := skip k.start (behindFields separator (k.start.field - 1) cs)
  let from_ := field.drop (k.start.char - 1)
  let begins := cs.length - from_.length
  let ends := match k.stop with
    | none => cs.length
    | some p =>
      if p.char = 0 then lengthOfFields separator p.field cs
      else
        let behind := skip p (behindFields separator (p.field - 1) cs)
        min cs.length (cs.length - behind.length + p.char)
  from_.take (ends - begins)

/-- A place in a key: its numbers, its letters, and what is behind it. -/
def readPlace (cs : List Char) : Option (Nat × Nat × List Char × List Char) :=
  let (field, length) := Number.digits 10 cs
  if length = 0 then none
  else
    let rest := cs.drop length
    let (char, rest) := match rest with
      | '.' :: more => let (n, length) := Number.digits 10 more; (n, more.drop length)
      | rest => (0, rest)
    let letters := rest.takeWhile fun c => "bdfgiMhnRrV".toList.contains c
    some (field, char, letters, rest.drop letters.length)

/-- **Read a key**; without letters of its own it is compared like the whole. -/
def read (whole : List Char) (word : String) : Except String SortKey :=
  let invalid (what : String) (cs : List Char) : Except String SortKey :=
    .error ("invalid number " ++ what ++ ": invalid count at start of "
      ++ quoted (String.ofList cs))
  match readPlace word.toList with
  | none => invalid "at field start" word.toList
  | some (field, char, letters, rest) =>
    if field = 0 then
      .error ("field number is zero: invalid field specification " ++ quoted word)
    else
      let start (letters : List Char) : KeyPlace :=
        ⟨field, max 1 char, letters.contains 'b'⟩
      match rest with
      | [] =>
        let own := if letters.isEmpty then whole else letters
        .ok ⟨start own, none, .ofLetters own⟩
      | ',' :: more =>
        match readPlace more with
        | none => invalid "after ','" more
        | some (endField, endChar, endLetters, rest) =>
          if !rest.isEmpty then
            .error ("stray character in field spec: invalid field specification " ++ quoted word)
          else if endField = 0 then
            .error ("field number is zero: invalid field specification " ++ quoted word)
          else
            let isBare := letters.isEmpty && endLetters.isEmpty
            let own := if isBare then whole else letters
            let endOwn := if isBare then whole else endLetters
            .ok ⟨start own, some ⟨endField, endChar, endOwn.contains 'b'⟩,
              .ofLetters (own ++ endOwn)⟩
      | _ => .error ("stray character in field spec: invalid field specification " ++ quoted word)

end SortKey

/-- How lines are sorted. -/
structure Sorting where
  keys : List SortKey
  separator : Option Char
  /-- The whole is reversed. -/
  reversed : Bool
  /-- What no key tells apart is left as it is. -/
  leaves : Bool

/-- Compare two lines by their keys. -/
def Sorting.byKeys (s : Sorting) (a b : List Char) : Ordering :=
  s.keys.foldl (fun ordering k =>
    ordering.then (k.manner.keys (k.of s.separator a) (k.of s.separator b))) .eq

/-- **Compare two lines.** -/
def Sorting.lines (s : Sorting) (a b : List Char) : Ordering :=
  let ordering := s.byKeys a b
  if s.leaves then ordering
  else ordering.then (if s.reversed then (Comparing.texts a b).swap else Comparing.texts a b)

/-- Lines without those that equal the one before them. -/
def withoutDoubles (s : Sorting) : List (List Char) → List (List Char)
  | a :: rest =>
    match rest with
    | b :: more =>
      if s.byKeys a b = .eq then withoutDoublesOn s a (b :: more) (more.length + 1)
      else a :: withoutDoubles s (b :: more)
    | [] => [a]
  | [] => []
where
  /-- Lines behind one that is kept. -/
  withoutDoublesOn (s : Sorting) (a : List Char) : List (List Char) → Nat → List (List Char)
  | _, 0 => [a]
  | [], _ => [a]
  | b :: more, fuel + 1 =>
    if s.byKeys a b = .eq then withoutDoublesOn s a more fuel
    else a :: withoutDoublesOn s b more fuel

/-- The first line that is smaller than the one before it, with its number. -/
def disorder? (s : Sorting) (strict : Bool) : Nat → List (List Char) → Option (Nat × List Char)
  | n, a :: b :: rest =>
    let ordering := s.lines a b
    if ordering = .gt || (strict && ordering = .eq) then some (n + 1, b)
    else disorder? s strict (n + 1) (b :: rest)
  | _, _ => none

/-- **Sort lines.** -/
def sort : Work Unit := do
  Work.dread 2
  let s ← Work.switches
    { plain := "bcCdfghiMmnRrsuVz", valued := "koStT"
      long := [("ignore-leading-blanks", 'b', .nothing), ("dictionary-order", 'd', .nothing),
        ("ignore-case", 'f', .nothing), ("general-numeric-sort", 'g', .nothing),
        ("ignore-nonprinting", 'i', .nothing), ("month-sort", 'M', .nothing),
        ("human-numeric-sort", 'h', .nothing), ("numeric-sort", 'n', .nothing),
        ("reverse", 'r', .nothing), ("version-sort", 'V', .nothing), ("check", 'c', .maybe),
        ("key", 'k', .value), ("merge", 'm', .nothing), ("output", 'o', .value),
        ("stable", 's', .nothing), ("field-separator", 't', .value), ("unique", 'u', .nothing),
        ("zero-terminated", 'z', .nothing)] } 2
  let whole := (s.1.map (·.1)).filter fun c => "bdfgiMhnRrV".toList.contains c
  let separator ← match s.get? 't' with
    | none => pure none
    | some t =>
      match t.toList with
      | [c] => pure (some c)
      | ['\\', '0'] => pure (some (Char.ofNat 0))
      | [] => Work.fail "empty tab" 2
      | _ => Work.fail ("multi-character tab " ++ quoted t) 2
  let keys ← (s.1.filter (·.1 == 'k')).mapM fun (_, word) =>
    match SortKey.read whole word with
    | .ok k => pure k
    | .error why => Work.fail why 2
  let keys := if keys.isEmpty then
    [⟨⟨1, 1, whole.contains 'b'⟩, none, .ofLetters whole⟩] else keys
  let sorting : Sorting := ⟨keys, separator, whole.contains 'r', s.has 's' || s.has 'u'⟩
  let ending := if s.has 'z' then Char.ofNat 0 else '\n'
  let paths := Work.sources s.words
  let texts ← paths.mapM fun path => do
    match ← Work.contentOf path with
    | .ok bs => pure (Latin.text bs)
    | .error (.opening e) => Work.fail ("cannot read: " ++ shown path ++ ": " ++ e.text) 2
    | .error (.reading e) => Work.fail ("read failed: " ++ shown path ++ ": " ++ e.text) 2
  let lines := texts.flatMap (linesOf ending)
  if s.has 'c' || s.has 'C' then
    match disorder? sorting (s.has 'u') 1 lines with
    | none => pure ()
    | some (n, line) =>
      if s.has 'c' then
        Work.complain (paths.headD "-" ++ ":" ++ toString n ++ ": disorder: " ++ String.ofList line)
      Work.leave 1
  else
    let sorted := lines.mergeSort fun a b => sorting.lines a b != .gt
    let sorted := if s.has 'u' then withoutDoubles sorting sorted else sorted
    match s.get? 'o' with
    | none => printLines ending sorted
    | some path =>
      match ← Work.openFile path .replacing with
      | .error e => Work.fail ("open failed: " ++ shown path ++ ": " ++ e.text) 2
      | .ok fd =>
        let _ ← Work.ask (Play.write fd (sorted.flatMap fun line => Latin.spell (line ++ [ending])))
        Work.close fd

/-! ## Doubles -/

/-- Lines in groups of those that follow one another and look the same. -/
def grouped (look : List Char → List Char) (lines : List (List Char)) : List (List (List Char)) :=
  lines.splitBy fun a b => look a == look b

/-- **Leave out lines that come again.** -/
def uniq : Work Unit := do
  let s ← Work.switches
    { plain := "cdDiuz", valued := "fsw"
      long := [("count", 'c', .nothing), ("repeated", 'd', .nothing),
        ("all-repeated", 'D', .maybe), ("skip-fields", 'f', .value),
        ("ignore-case", 'i', .nothing), ("skip-chars", 's', .value), ("unique", 'u', .nothing),
        ("zero-terminated", 'z', .nothing), ("check-chars", 'w', .value)] }
  let number (c : Char) : Option Nat := (s.get? c).bind count?
  let look (cs : List Char) : List Char :=
    let cs := SortKey.behindFields none ((number 'f').getD 0) cs
    let cs := cs.drop ((number 's').getD 0)
    let cs := match number 'w' with
      | some n => cs.take n
      | none => cs
    if s.has 'i' then cs.map Char.toLower else cs
  let ending := if s.has 'z' then Char.ofNat 0 else '\n'
  match ← Work.textOf? (s.words.headD "-") with
  | none => Work.leave 1
  | some text =>
    let kept := (grouped look (linesOf ending text)).filter fun group =>
      if s.has 'D' || s.has 'd' then 1 < group.length && !s.has 'u'
      else !s.has 'u' || group.length = 1
    let lines := kept.flatMap fun group =>
      if s.has 'D' then group
      else
        let first := group.headD []
        [if s.has 'c' then (padLeft 7 (toString group.length) ++ " ").toList ++ first else first]
    match s.words with
    | _ :: path :: _ =>
      match ← Work.openFile path .replacing with
      | .error e => Work.fail (shown path ++ ": " ++ e.text)
      | .ok fd =>
        let _ ← Work.ask (Play.write fd (lines.flatMap fun line => Latin.spell (line ++ [ending])))
        Work.close fd
    | _ => printLines ending lines

/-! ## Parts of lines -/

/-- A range of positions: the first, and the last if there is one. -/
abbrev Span := Nat × Option Nat

/-- The range that a text says; what is wrong with it otherwise. -/
def spanOf (kind : String) (word : String) : Except String Span :=
  let cs := word.toList
  let invalid : Except String Span := .error ("invalid " ++ kind ++ " " ++ quoted word)
  let (first, length) := Number.digits 10 cs
  let zero : Except String Span :=
    .error (if kind = "field value" then "fields are numbered from 1"
      else "byte/character positions are numbered from 1")
  match cs.drop length with
  | [] => if length = 0 then invalid else if first = 0 then zero else .ok (first, some first)
  | '-' :: rest =>
    let (last, lastLength) := Number.digits 10 rest
    if lastLength != rest.length then invalid
    else if length = 0 && lastLength = 0 then
      .error "invalid range with no endpoint: -"
    else if length != 0 && first = 0 then zero
    else if lastLength = 0 then .ok (max 1 first, none)
    else if last < max 1 first then .error "invalid decreasing range"
    else .ok (max 1 first, some last)
  | _ => invalid

/-- Whether a position is in one of the ranges. -/
def isWithin (spans : List Span) (n : Nat) : Bool :=
  spans.any fun (first, last) => first ≤ n && last.all (n ≤ ·)

/-- What is picked of a list. -/
def picked {α : Type} (isPicked : Nat → Bool) (items : List α) : List α :=
  ((items.zip (List.range items.length)).filter fun (_, i) => isPicked (i + 1)).map (·.1)

/-- **Take parts of lines.** -/
def cut : Work Unit := do
  let s ← Work.switches
    { plain := "nsz", valued := "bcdf"
      long := [("bytes", 'b', .value), ("characters", 'c', .value), ("delimiter", 'd', .value),
        ("fields", 'f', .value), ("complement", 'C', .nothing),
        ("only-delimited", 's', .nothing), ("output-delimiter", 'O', .value),
        ("zero-terminated", 'z', .nothing)] }
  let lists := s.1.filter fun e => "bcf".toList.contains e.1
  match lists with
  | [] => Work.misuse "you must specify a list of bytes, characters, or fields"
  | _ :: _ :: _ => Work.misuse "only one list may be specified"
  | [(kind, list)] =>
    let delimiter := (s.get? 'd').getD "\t"
    if 1 < delimiter.length then Work.misuse "the delimiter must be a single character"
    let byFields := kind = 'f'
    if !byFields && s.has 'd' then
      Work.misuse "an input delimiter may be specified only when operating on fields"
    if !byFields && s.has 's' then
      Work.misuse "suppressing non-delimited lines makes sense\n\tonly when operating on fields"
    let words := (list.toList.splitBy fun a b =>
      (a = ',' || a = ' ') == (b = ',' || b = ' ')).filter fun w =>
        !w.head?.any fun c => c = ',' || c = ' '
    let spans ← words.mapM fun w =>
      match spanOf (if byFields then "field value" else "byte/character position")
          (String.ofList w) with
      | .ok span => pure span
      | .error why => Work.misuse why
    let isPicked (n : Nat) : Bool := isWithin spans n != s.has 'C'
    let ending := if s.has 'z' then Char.ofNat 0 else '\n'
    let c := delimiter.toList.headD (Char.ofNat 0)
    let between := match s.get? 'O' with
      | some t => t.toList
      | none => [c]
    let take (line : List Char) : Option (List Char) :=
      if !byFields then some (picked isPicked line)
      else if !line.contains c then if s.has 's' then none else some line
      else some (between.intercalate (picked isPicked (line.splitOn c)))
    (Work.sources s.words).forM fun path => do
      match ← Work.textOf? path with
      | some text => printLines ending ((linesOf ending text).filterMap take)
      | none => pure ()

end NestedSession.Rehearsal.Program
