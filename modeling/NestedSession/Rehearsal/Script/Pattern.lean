import NestedSession.System.Files
import NestedSession.Rehearsal.Latin

/-!
# Rehearsal/Script/Pattern — patterns of texts and of file names

A word whose values are put in is a list of glyphs: characters that may have a special meaning,
characters that have none, and marks.  As a pattern `*` stands for any text, `?` for any character,
and brackets for one of those within; a backslash takes the meaning of what is behind it.  The names
of files match a pattern part by part (`Pattern.paths`).
-/

namespace NestedSession.Rehearsal

/-- A character of a word whose values are put in. -/
inductive Glyph where
  /-- It may have a special meaning. -/
  | plain (c : Char)
  /-- It stands for itself. -/
  | exact (c : Char)
  /-- Where quotes begin or end. -/
  | mark
  /-- Where an argument ends and another begins. -/
  | gap
  deriving DecidableEq, Repr

namespace Glyph

/-- The text of glyphs. -/
def text (gs : List Glyph) : List Char := gs.filterMap fun
  | plain c | exact c => some c
  | _ => none

end Glyph

/-- One of the things that brackets hold. -/
inductive Member where
  | range (lo hi : Char)
  | kind (test : Char → Bool)

/-- A part of a pattern. -/
inductive PatternPart where
  | one (c : Char)
  | any
  | many
  | among (wanted : Bool) (members : List Member)

/-- A pattern. -/
abbrev Pattern := List PatternPart

namespace Pattern

/-- The classes that brackets may name. -/
def kinds : List (String × (Char → Bool)) :=
  let isGraph (c : Char) : Bool := 33 ≤ c.toNat && c.toNat ≤ 126
  let isBlank (c : Char) : Bool := c = ' ' || c = '\t'
  [("alnum", Char.isAlphanum), ("alpha", Char.isAlpha), ("blank", isBlank),
    ("cntrl", fun c => c.toNat < 32 || c.toNat = 127), ("digit", Char.isDigit),
    ("graph", isGraph), ("lower", Char.isLower), ("print", fun c => c = ' ' || isGraph c),
    ("punct", fun c => isGraph c && !c.isAlphanum),
    ("space", fun c => isBlank c || (10 ≤ c.toNat && c.toNat ≤ 13)), ("upper", Char.isUpper),
    ("xdigit", fun c => c.isDigit || ('a' ≤ c && c ≤ 'f') || ('A' ≤ c && c ≤ 'F'))]

/-- Characters, each with whether it stands for itself. -/
abbrev Spelt := List (Char × Bool)

/-- A backslash takes the meaning of the character behind it. -/
def spelt : List Glyph → Spelt
  | [] => []
  | .plain '\\' :: rest =>
    match rest with
    | [] => [('\\', true)]
    | .plain c :: rest | .exact c :: rest => (c, true) :: spelt rest
    | _ :: rest => spelt rest
  | .plain c :: rest => (c, false) :: spelt rest
  | .exact c :: rest => (c, true) :: spelt rest
  | _ :: rest => spelt rest

/-- The class that is named behind a bracket, with what is behind it. -/
def kindOf? (cs : Spelt) : Option ((Char → Bool) × Spelt) :=
  match cs with
  | (':', false) :: rest =>
    let name := rest.takeWhile fun e => e.1 != ':'
    match rest.drop name.length, kinds.lookup (String.ofList (name.map (·.1))) with
    | (':', _) :: (']', _) :: behind, some test => some (test, behind)
    | _, _ => none
  | _ => none

/-- The members of brackets up to the closing one, with what is behind it. -/
def membersOn : Nat → Bool → List Member → Spelt → Option (List Member × Spelt)
  | 0, _, _, _ => none
  | _, _, _, [] => none
  | fuel + 1, isFirst, got, (c, isExact) :: rest =>
    if c = ']' && !isExact && !isFirst then some (got.reverse, rest)
    else
      match if c = '[' && !isExact then kindOf? rest else none with
      | some (test, behind) => membersOn fuel false (.kind test :: got) behind
      | none =>
        match rest with
        | ('-', false) :: (hi, isExact) :: behind =>
          if hi = ']' && !isExact then membersOn fuel false (.range c c :: got) rest
          else membersOn fuel false (.range c hi :: got) behind
        | rest => membersOn fuel false (.range c c :: got) rest

/-- The parts of a pattern. -/
def partsOf : Nat → Spelt → Pattern
  | 0, _ => []
  | _, [] => []
  | fuel + 1, (c, true) :: rest => .one c :: partsOf fuel rest
  | fuel + 1, (c, false) :: rest =>
    if c = '*' then .many :: partsOf fuel rest
    else if c = '?' then .any :: partsOf fuel rest
    else if c = '[' then
      let (wanted, inner) := match rest with
        | ('!', false) :: inner => (false, inner)
        | inner => (true, inner)
      match membersOn (inner.length + 1) true [] inner with
      | some (members, behind) => .among wanted members :: partsOf fuel behind
      | none => .one c :: partsOf fuel rest
    else .one c :: partsOf fuel rest

/-- The pattern of characters. -/
def ofSpelt (cs : Spelt) : Pattern := partsOf (cs.length + 1) cs

/-- **The pattern that glyphs spell.** -/
def ofGlyphs (gs : List Glyph) : Pattern := ofSpelt (spelt gs)

/-- The pattern that a text spells. -/
def ofText (t : String) : Pattern := ofGlyphs (t.toList.map .plain)

/-- Whether a character is a member. -/
def Member.has (c : Char) : Member → Bool
  | .range lo hi => lo ≤ c && c ≤ hi
  | .kind test => test c

/-- The ends of a text. -/
def ends : List Char → List (List Char)
  | [] => [[]]
  | c :: cs => (c :: cs) :: ends cs

/-- **Whether a text matches a pattern.** -/
def fits : Pattern → List Char → Bool
  | [], cs => cs.isEmpty
  | .one p :: rest, cs =>
    match cs with
    | c :: cs => c = p && fits rest cs
    | [] => false
  | .any :: rest, cs =>
    match cs with
    | _ :: cs => fits rest cs
    | [] => false
  | .among wanted members :: rest, cs =>
    match cs with
    | c :: cs => members.any (Member.has c) = wanted && fits rest cs
    | [] => false
  | .many :: rest, cs => (ends cs).any fun cs => fits rest cs

/-- The length of the shortest or the longest beginning of a text that matches. -/
def beginning? (p : Pattern) (cs : List Char) (long : Bool) : Option Nat :=
  let lengths := List.range (cs.length + 1)
  (if long then lengths.reverse else lengths).find? fun n => fits p (cs.take n)

/-- The length of what is before the shortest or the longest end of a text that matches. -/
def ending? (p : Pattern) (cs : List Char) (long : Bool) : Option Nat :=
  let lengths := List.range (cs.length + 1)
  (if long then lengths else lengths.reverse).find? fun n => fits p (cs.drop n)

/-! ## Names of files -/

/-- Whether a pattern stands for more than one text. -/
def isOpen (p : Pattern) : Bool := p.any fun
  | .one _ => false
  | _ => true

/-- The text of a pattern that stands for one. -/
def text (p : Pattern) : List Char := p.filterMap fun
  | .one c => some c
  | _ => none

/-- A text in which only `*`, `?` and brackets can be special. -/
def mayBeOpen (gs : List Glyph) : Bool := gs.any fun
  | .plain c => c = '*' || c = '?' || c = '['
  | _ => false

/-- Whether there is a node at a path. -/
def isThere (t : Files) (cwd : Place) (cs : List Char) : Bool :=
  match t.placeOfLink? cwd (Latin.spell cs) with
  | .ok place => (t.at? place).isSome
  | .error _ => false

/-- The names in a directory. -/
def namesIn (t : Files) (cwd : Place) (cs : List Char) : List (List Char) :=
  match t.place? cwd (if cs.isEmpty then Path.here else Latin.spell cs) with
  | .ok place =>
    if t.isDirectory place then
      [['.'], ['.', '.']] ++ (t.namesAt place).map Latin.characters
    else []
  | .error _ => []

/-- The paths that begin as said and go on as patterns say. -/
def pathsFrom (t : Files) (cwd : Place) : List Spelt → List Char → List (List Char)
  | [], _ => []
  | [last], before =>
    let p := ofSpelt last
    if isOpen p then
      let hidden := last.head?.any (·.1 == '.')
      ((namesIn t cwd before).filter fun name =>
        fits p name && (hidden || name.head? != some '.')).map (before ++ ·)
    else
      let path := before ++ text p
      if isThere t cwd path then [path] else []
  | part :: rest, before =>
    let p := ofSpelt part
    if isOpen p then
      let hidden := part.head?.any (·.1 == '.')
      let names := (namesIn t cwd before).filter fun name =>
        fits p name && (hidden || name.head? != some '.')
      names.flatMap fun name => pathsFrom t cwd rest (before ++ name ++ ['/'])
    else pathsFrom t cwd rest (before ++ text p ++ ['/'])

/-- Cut where a separator stands. -/
def cut (cs : Spelt) : List Spelt :=
  cs.foldr (fun e parts =>
    if e.1 = '/' then [] :: parts
    else match parts with
      | part :: parts => (e :: part) :: parts
      | [] => [[e]]) [[]]

/-- **The paths that match**, in order. -/
def paths (t : Files) (cwd : Place) (gs : List Glyph) : List (List Char) :=
  (pathsFrom t cwd (cut (spelt gs)) []).mergeSort fun a b =>
    String.ofList a ≤ String.ofList b

end Pattern

end NestedSession.Rehearsal
