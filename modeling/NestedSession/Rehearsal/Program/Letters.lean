import NestedSession.Rehearsal.Program.Lines
import NestedSession.Rehearsal.Script.Pattern

/-!
# Rehearsal/Program/Letters — a program that changes characters

    tr

A set of characters is written as a row of them, with ranges, classes and repetitions.  Characters
of the first set become those of the second one, are deleted, or are kept from coming twice in a
row.
-/

namespace NestedSession.Rehearsal.Program

/-- A part of a set that is written out. -/
inductive SetPart where
  | chars (cs : List Char)
  /-- A character so often, or as often as there is room. -/
  | repeated (c : Char) (count : Option Nat)

/-- A character of a set, and what is behind it. -/
def setChar (cs : List Char) : Option (Char × List Char) :=
  match cs with
  | [] => none
  | '\\' :: d :: rest =>
    if '0' ≤ d && d ≤ '7' then
      let ds := ((d :: rest).takeWhile fun c => '0' ≤ c && c ≤ '7').take 3
      some (Char.ofNat ((Number.digits 8 ds).1 % 256), (d :: rest).drop ds.length)
    else
      let named := [('a', 7), ('b', 8), ('f', 12), ('n', 10), ('r', 13), ('t', 9), ('v', 11)]
      some (((named.lookup d).map Char.ofNat).getD d, rest)
  | c :: rest => some (c, rest)

/-- The characters of a class in rising order. -/
def classChars (test : Char → Bool) : List Char := ((List.range 256).map Char.ofNat).filter test

/-- What brackets mean in a set, and what is behind them. -/
def setBrackets? (cs : List Char) : Except String (Option (SetPart × List Char)) :=
  match cs with
  | ':' :: rest =>
    let name := rest.takeWhile (· != ':')
    match rest.drop name.length with
    | ':' :: ']' :: behind =>
      match Pattern.kinds.lookup (String.ofList name) with
      | some test => .ok (some (.chars (classChars test), behind))
      | none => .error ("invalid character class " ++ quoted (String.ofList name))
    | _ => .ok none
  | '=' :: c :: '=' :: ']' :: behind => .ok (some (.chars [c], behind))
  | cs =>
    match setChar cs with
    | some (c, '*' :: rest) =>
      let ds := rest.takeWhile Char.isDigit
      match rest.drop ds.length with
      | ']' :: behind =>
        let base := if ds.head? = some '0' then 8 else 10
        let n := (Number.digits base ds).1
        .ok (some (.repeated c (if n = 0 then none else some n), behind))
      | _ => .ok none
    | _ => .ok none

/-- The parts of a set. -/
def setParts : Nat → List Char → Except String (List SetPart)
  | 0, _ => .ok []
  | _, [] => .ok []
  | fuel + 1, cs => do
    let bracketed ← if cs.head? = some '[' then setBrackets? (cs.drop 1) else .ok none
    match bracketed with
    | some (part, behind) => .ok (part :: (← setParts fuel behind))
    | none =>
      match setChar cs with
      | none => .ok []
      | some (c, rest) =>
        match rest with
        | '-' :: more =>
          match setChar more with
          | some (hi, behind) =>
            if hi < c then
              .error ("range-endpoints of " ++ quoted (String.ofList [c, '-', hi])
                ++ " are in reverse collating sequence order")
            else
              let range := (List.range (hi.toNat - c.toNat + 1)).map fun i =>
                Char.ofNat (c.toNat + i)
              .ok (.chars range :: (← setParts fuel behind))
          | none => .ok (.chars [c] :: (← setParts fuel rest))
        | _ => .ok (.chars [c] :: (← setParts fuel rest))

/-- The characters of a set, filled up to a length if it says where. -/
def setChars (length : Nat) (parts : List SetPart) : List Char :=
  let counted := parts.map fun
    | .chars cs => cs.length
    | .repeated _ count => count.getD 0
  let room := length - Number.total counted
  parts.flatMap fun
    | .chars cs => cs
    | .repeated c count => List.replicate (count.getD room) c

/-- How characters are changed. -/
structure Changing where
  deletes : Char → Bool
  becomes : Char → Char
  /-- What does not come twice in a row. -/
  squeezes : Char → Bool

/-- Change characters; the one that was written last comes with them. -/
def Changing.apply (x : Changing) (last : Option Char) (cs : List Char) :
    Option Char × List Char :=
  let (last, got) := cs.foldl (fun (last, got) c =>
    if x.deletes c then (last, got)
    else
      let c := x.becomes c
      if x.squeezes c && last = some c then (last, got) else (some c, c :: got)) (last, [])
  (last, got.reverse)

/-- Change what is read, piece by piece. -/
def changeAll (x : Changing) : Nat → Option Char → Work Unit
  | 0, _ => pure ()
  | fuel + 1, last => do
    match ← Work.ask (Play.read 0 Play.readSize) with
    | .error e => Work.fail ("read error: " ++ e.text)
    | .ok [] => pure ()
    | .ok bs =>
      let (last, cs) := x.apply last (Latin.characters bs)
      Work.print (String.ofList cs)
      Work.flush
      changeAll x fuel last

/-- Which of a set's characters each character becomes. -/
def translation (set1 set2 : List Char) : List (Char × Char) :=
  (set1.zip (set2 ++ List.replicate (set1.length - set2.length) (set2.getLast?.getD ' '))).reverse

/-- The set that a word is. -/
def readSet (word : String) : Work (List SetPart) :=
  match setParts (word.length + 1) word.toList with
  | .ok parts => pure parts
  | .error why => Work.fail why

/-- **Change, delete or squeeze characters.** -/
def tr : Work Unit := do
  let s ← Work.switches
    { plain := "cCdst", inOrder := true
      long := [("complement", 'c', .nothing), ("delete", 'd', .nothing),
        ("squeeze-repeats", 's', .nothing), ("truncate-set1", 't', .nothing)] }
  let deletes := s.has 'd'
  let squeezes := s.has 's'
  let complements := s.has 'c' || s.has 'C'
  let both := !deletes && !squeezes || deletes && squeezes
  match s.words with
  | [] => Work.misuse "missing operand"
  | [word] =>
    if both then
      Work.complain ("missing operand after " ++ quoted word)
      Work.say (if deletes then
        "Two strings must be given when both deleting and squeezing repeats.\n"
        else "Two strings must be given when translating.\n")
      Work.referToHelp
  | _ :: second :: rest =>
    let surplus := if deletes && !squeezes then some second else rest.head?
    match surplus with
    | some word =>
      Work.complain ("extra operand " ++ quoted word)
      if deletes && !squeezes && rest.isEmpty then
        Work.say "Only one string may be given when deleting without squeezing repeats.\n"
      Work.referToHelp
    | none => pure ()
  let set1 := setChars 0 (← readSet (s.words.headD ""))
  let set1 := if complements then classChars fun c => !set1.contains c else set1
  let parts2 ← readSet (s.words.getD 1 "")
  let set2 := setChars set1.length parts2
  let hasSecond := 1 < s.words.length
  let x ← if deletes then
      pure ⟨set1.contains, id, fun c => squeezes && set2.contains c⟩
    else if !hasSecond then pure ⟨fun _ => false, id, set1.contains⟩
    else if set2.isEmpty && !s.has 't' then
      Work.fail "when not truncating set1, string2 must be non-empty"
    else
      let set1 := if s.has 't' then set1.take set2.length else set1
      let pairs := translation set1 set2
      pure (⟨fun _ => false, fun c => (pairs.lookup c).getD c,
        fun c => squeezes && set2.contains c⟩ : Changing)
  changeAll x Play.rounds none

end NestedSession.Rehearsal.Program
