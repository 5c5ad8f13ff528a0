/-!
# Rehearsal/Program/Regex/Matching — what a regular expression matches

A match begins as far to the left as possible, and is as long as possible there.  All the places
where a match may end are found at once (`Regex.ends`); what the groups of it match is found
afterwards, each part being as long as the parts after it allow (`Regex.parse`).  An expression that
refers back to its groups is tried in all ways instead (`Regex.ways`).
-/

namespace NestedSession.Rehearsal

/-- A regular expression. -/
inductive Regex where
  /-- Nothing at all. -/
  | empty
  /-- One character of a kind. -/
  | one (test : Char → Bool)
  | seq (first second : Regex)
  | either (first second : Regex)
  /-- As often as one likes. -/
  | star (body : Regex)
  | group (number : Nat) (body : Regex)
  /-- What a group matched, again. -/
  | again (number : Nat)
  /-- A place between the character before it and the one behind it, if they are as said. -/
  | place (test : Option Char → Option Char → Bool)

namespace Regex

/-- What groups matched: where each begins and ends, the latest first. -/
abbrev Groups := List (Nat × Nat × Nat)

/-- A match. -/
structure Found where
  start : Nat
  stop : Nat
  groups : Groups

/-- Whether an expression refers back to its groups. -/
def refersBack : Regex → Bool
  | again _ => true
  | seq a b | either a b => a.refersBack || b.refersBack
  | star a | group _ a => a.refersBack
  | _ => false

/-! ## Where matches end -/

/-- Places in rising order, put together. -/
def union : Nat → List Nat → List Nat → List Nat
  | 0, _, _ => []
  | _, [], bs => bs
  | _, as, [] => as
  | fuel + 1, a :: as, b :: bs =>
    if a < b then a :: union fuel as (b :: bs)
    else if b < a then b :: union fuel (a :: as) bs
    else a :: union fuel as bs

/-- Places in rising order, put together. -/
def merged (as bs : List Nat) : List Nat := union (as.length + bs.length + 1) as bs

/-- Places and all that is reached from them by steps. -/
def closure (step : List Nat → List Nat) : Nat → List Nat → List Nat → List Nat
  | 0, _, all => all
  | fuel + 1, fresh, all =>
    let next := (step fresh).filter fun i => !all.contains i
    if next.isEmpty then all else closure step fuel next (merged all next)

/-- The character before a place. -/
def before? (t : Array Char) (i : Nat) : Option Char := if i = 0 then none else t[i - 1]?

/-- **Where matches end** that begin at some places. -/
def ends (t : Array Char) : Regex → List Nat → List Nat
  | empty, places => places
  | one test, places => places.filterMap fun i =>
    if t[i]?.any test then some (i + 1) else none
  | seq a b, places => ends t b (ends t a places)
  | either a b, places => merged (ends t a places) (ends t b places)
  | star a, places => closure (ends t a) (t.size + 1) places places
  | group _ a, places => ends t a places
  | again _, _ => []
  | place test, places => places.filter fun i => test (before? t i) t[i]?

/-! ## What groups match -/

/-- Rounds of a repetition that cover a part of the text, each as long as possible. -/
def parseRounds (t : Array Char) (body : Regex)
    (parse : Nat → Nat → Groups → Option Groups) (stop : Nat) :
    Nat → Nat → Groups → Option Groups
  | 0, _, _ => none
  | fuel + 1, i, groups =>
    if i = stop then some groups
    else
      let stops := (ends t body [i]).filter fun k => i < k && k ≤ stop
      stops.reverse.findSome? fun k =>
        if (ends t (star body) [k]).contains stop then
          (parse i k groups).bind fun groups => parseRounds t body parse stop fuel k groups
        else none

/-- **What groups match**, if an expression matches a part of the text. -/
def parse (t : Array Char) : Regex → Nat → Nat → Groups → Option Groups
  | seq a b, i, j, groups =>
    let stops := (ends t a [i]).filter fun k => k ≤ j && (ends t b [k]).contains j
    stops.reverse.findSome? fun k => (parse t a i k groups).bind fun groups => parse t b k j groups
  | either a b, i, j, groups =>
    if (ends t a [i]).contains j then parse t a i j groups else parse t b i j groups
  | star a, i, j, groups =>
    if i = j && (ends t a [i]).contains i then (parse t a i i groups).or (some groups)
    else parseRounds t a (parse t a) j (t.size + 2) i groups
  | group n a, i, j, groups => (parse t a i j groups).map fun groups => (n, i, j) :: groups
  | _, _, _, groups => some groups

/-! ## Expressions that refer back -/

/-- All the ways to match, the longest repetitions first. -/
def ways (t : Array Char) : Nat → Regex → Nat → Groups → (Nat → Groups → List (Nat × Groups)) →
    List (Nat × Groups)
  | 0, _, _, _, _ => []
  | _, empty, i, groups, next => next i groups
  | _, one test, i, groups, next => if t[i]?.any test then next (i + 1) groups else []
  | fuel + 1, seq a b, i, groups, next =>
    ways t fuel a i groups fun k groups => ways t fuel b k groups next
  | fuel + 1, either a b, i, groups, next =>
    ways t fuel a i groups next ++ ways t fuel b i groups next
  | fuel + 1, star a, i, groups, next =>
    (ways t fuel a i groups fun k groups =>
      if k = i then [] else ways t fuel (star a) k groups next) ++ next i groups
  | fuel + 1, group n a, i, groups, next =>
    ways t fuel a i groups fun k groups => next k ((n, i, k) :: groups)
  | _, again n, i, groups, next =>
    match groups.lookup n with
    | none => []
    | some (start, stop) =>
      let length := stop - start
      if i + length ≤ t.size && (List.range length).all fun k => t[start + k]? == t[i + k]? then
        next (i + length) groups
      else []
  | _, place test, i, groups, next => if test (before? t i) t[i]? then next i groups else []

/-- The size of an expression. -/
def size : Regex → Nat
  | seq a b | either a b => a.size + b.size + 1
  | star a | group _ a => a.size + 1
  | _ => 1

/-- The longest of some ways. -/
def longest (found : List (Nat × Groups)) : Option (Nat × Groups) :=
  found.foldl (fun best w =>
    match best with
    | none => some w
    | some b => if b.1 < w.1 then some w else best) none

/-! ## Searching -/

/-- The match that begins at a place. -/
def matchAt (t : Array Char) (r : Regex) (i : Nat) : Option Found :=
  if r.refersBack then
    (longest (ways t ((t.size + 2) * (r.size + 1)) r i [] fun k groups => [(k, groups)])).map
      fun (stop, groups) => ⟨i, stop, groups⟩
  else
    (ends t r [i]).getLast?.map fun stop => ⟨i, stop, (parse t r i stop []).getD []⟩

/-- **The first match from a place on.** -/
def search (t : Array Char) (r : Regex) : Nat → Nat → Option Found
  | 0, _ => none
  | fuel + 1, i =>
    match matchAt t r i with
    | some found => some found
    | none => if t.size ≤ i then none else search t r fuel (i + 1)

/-- The first match from a place on. -/
def find (r : Regex) (t : Array Char) (i : Nat) : Option Found := search t r (t.size + 1) i

/-- Whether there is a match at all. -/
def occurs (r : Regex) (t : Array Char) : Bool :=
  if r.refersBack then (r.find t 0).isSome
  else !(ends t r (List.range (t.size + 1))).isEmpty

/-- What a group of a match has matched. -/
def Found.group (t : Array Char) (found : Found) (n : Nat) : List Char :=
  if n = 0 then (t.extract found.start found.stop).toList
  else match found.groups.lookup n with
    | some (i, j) => (t.extract i j).toList
    | none => []

end Regex

end NestedSession.Rehearsal
