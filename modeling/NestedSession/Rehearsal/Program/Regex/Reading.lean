import NestedSession.Rehearsal.Program.Regex.Matching
import NestedSession.Rehearsal.Script.Pattern
import NestedSession.Rehearsal.Script.Sum

/-!
# Rehearsal/Program/Regex/Reading — how regular expressions are written

In the basic manner groups, choices and counts are written behind a backslash, in the extended
manner without one.  What is no sign stands for itself.
-/

namespace NestedSession.Rehearsal.Regex

/-- In which manner an expression is written. -/
structure Manner where
  extended : Bool
  /-- Whether small and capital letters are the same. -/
  ignoresCase : Bool := false
  deriving DecidableEq, Repr

/-- What has a meaning in an expression. -/
inductive Sign where
  | open_
  | close
  | bar
  | star
  | plus
  | maybe
  | count
  deriving DecidableEq, Repr

/-- The sign that an expression begins with, and what is behind it. -/
def sign? (m : Manner) : List Char → Option (Sign × List Char)
  | '*' :: rest => some (.star, rest)
  | '\\' :: c :: rest =>
    if m.extended then none
    else ([('(', Sign.open_), (')', .close), ('|', .bar), ('+', .plus), ('?', .maybe),
      ('\x7b', .count)].lookup c).map fun s => (s, rest)
  | c :: rest =>
    if m.extended then
      ([('(', Sign.open_), (')', .close), ('|', .bar), ('+', .plus), ('?', .maybe),
        ('\x7b', .count)].lookup c).map fun s => (s, rest)
    else none
  | [] => none

/-- A step of reading: what is left of the expression, and the number of groups so far. -/
abbrev Read (α : Type) : Type := StateT (List Char × Nat) (Except String) α

/-- What is left to be read. -/
def rest : Read (List Char) := do
  pure (← get).1

/-- Go on behind something. -/
def skipTo (cs : List Char) : Read Unit := modify fun (_, n) => (cs, n)

/-! ## Single characters -/

/-- Whether a character is a part of a word. -/
def isWordPart (c : Char) : Bool := c.isAlphanum || c = '_'

/-- A test that does not tell small letters from capital ones, if so asked. -/
def loosened (m : Manner) (test : Char → Bool) : Char → Bool :=
  if m.ignoresCase then fun c => test c || test c.toLower || test c.toUpper else test

/-- The test for one character. -/
def exactly (m : Manner) (c : Char) : Regex := .one (loosened m (· == c))

/-- Whether exactly one of two neighbours is a part of a word. -/
def isEdge (a b : Option Char) : Bool := a.any isWordPart != b.any isWordPart

/-- What a letter behind a backslash means. -/
def special? (c : Char) : Option Regex :=
  match c with
  | 'w' => some (.one isWordPart)
  | 'W' => some (.one fun c => !isWordPart c)
  | 's' => some (.one fun c => c = ' ' || (9 ≤ c.toNat && c.toNat ≤ 13))
  | 'S' => some (.one fun c => !(c = ' ' || (9 ≤ c.toNat && c.toNat ≤ 13)))
  | '<' => some (.place fun a b => !a.any isWordPart && b.any isWordPart)
  | '>' => some (.place fun a b => a.any isWordPart && !b.any isWordPart)
  | 'b' => some (.place isEdge)
  | 'B' => some (.place fun a b => !isEdge a b)
  | '`' => some (.place fun a _ => a.isNone)
  | '\'' => some (.place fun _ b => b.isNone)
  | _ => none

/-- The members of brackets up to the closing one, and what is behind it. -/
def members : Nat → Bool → List (Char → Bool) → List Char →
    Except String (List (Char → Bool) × List Char)
  | 0, _, _, _ | _, _, _, [] => .error "Unmatched [, [^, [:, [., or [="
  | fuel + 1, isFirst, got, c :: rest =>
    if c = ']' && !isFirst then .ok (got, rest)
    else
      let kind := rest.head?.getD ' '
      if c = '[' && (kind = ':' || kind = '.' || kind = '=') then
        let inside := (rest.drop 1).takeWhile (· != kind)
        match rest.drop (1 + inside.length) with
        | _ :: ']' :: behind =>
          if kind = ':' then
            match Pattern.kinds.lookup (String.ofList inside) with
            | some test => members fuel false (test :: got) behind
            | none => .error "Invalid character class name"
          else members fuel false ((inside.contains ·) :: got) behind
        | _ => .error "Unmatched [, [^, [:, [., or [="
      else match rest with
        | '-' :: hi :: behind =>
          if hi = ']' then members fuel false ((· == c) :: got) rest
          else if hi < c then .error "Invalid range end"
          else members fuel false ((fun x => c ≤ x && x ≤ hi) :: got) behind
        | _ => members fuel false ((· == c) :: got) rest

/-- What stands between brackets. -/
def brackets (m : Manner) (cs : List Char) : Read Regex := do
  let (wanted, inner) := match cs with
    | '^' :: inner => (false, inner)
    | inner => (true, inner)
  let (tests, behind) ← members (inner.length + 1) true [] inner
  skipTo behind
  let test := loosened m fun c => tests.any (· c)
  pure (.one fun c => test c == wanted)

/-! ## Counts -/

/-- So many in a row. -/
def inRow (r : Regex) : Nat → Regex
  | 0 => .empty
  | n + 1 => .seq r (inRow r n)

/-- At most so many in a row. -/
def atMost (r : Regex) : Nat → Regex
  | 0 => .empty
  | n + 1 => .either (.seq r (atMost r n)) .empty

/-- From so many up to so many in a row, or without end. -/
def counted (r : Regex) (least : Nat) : Option Nat → Regex
  | none => .seq (inRow r least) (.star r)
  | some most => .seq (inRow r least) (atMost r (most - least))

/-- A count between braces: the least, the most, and what is behind it. -/
def count? (m : Manner) (cs : List Char) : Option (Nat × Option Nat × List Char) :=
  let ending := if m.extended then ['\x7d'] else ['\\', '\x7d']
  let least := cs.takeWhile Char.isDigit
  let number (ds : List Char) : Nat := (Number.digits 10 ds).1
  let close (least : Nat) (most : Option Nat) (cs : List Char) :
      Option (Nat × Option Nat × List Char) :=
    if ending.isPrefixOf cs then some (least, most, cs.drop ending.length) else none
  match cs.drop least.length with
  | ',' :: behind =>
    let most := behind.takeWhile Char.isDigit
    let limit := if most.isEmpty then none else some (number most)
    close (number least) limit (behind.drop most.length)
  | behind => if least.isEmpty then none else close (number least) (some (number least)) behind

/-- Signs behind a part that say how often it comes. -/
def repeated (m : Manner) : Nat → Regex → Read Regex
  | 0, r => pure r
  | fuel + 1, r => do
    match sign? m (← rest) with
    | some (.star, behind) =>
      skipTo behind
      repeated m fuel (.star r)
    | some (.plus, behind) =>
      skipTo behind
      repeated m fuel (.seq r (.star r))
    | some (.maybe, behind) =>
      skipTo behind
      repeated m fuel (.either r .empty)
    | some (.count, behind) =>
      match count? m behind with
      | some (least, most, behind) =>
        if most.any (· < least) then throw "Invalid content of \\\x7b\\\x7d"
        else if 32767 < max least (most.getD 0) then throw "Regular expression too big"
        else
          skipTo behind
          repeated m fuel (counted r least most)
      | none =>
        let isOpen := !behind.contains '\x7d'
        if m.extended then pure r
        else throw (if isOpen then "Unmatched \\\x7b" else "Invalid content of \\\x7b\\\x7d")
    | _ => pure r

/-! ## Expressions -/

/-- The beginning of the text. -/
def atStart : Regex := .place fun a _ => a.isNone

/-- The end of the text. -/
def atEnd : Regex := .place fun _ b => b.isNone

/-- Whether a sign for the end of the text may stand before this. -/
def endsHere (m : Manner) (cs : List Char) : Bool :=
  m.extended || cs.isEmpty || (sign? m cs).any fun (s, _) => s = .close || s = .bar

mutual

/-- Choices, up to the end or to what closes the group. -/
def choices (m : Manner) : Nat → Nat → Read Regex
  | 0, _ => throw "Regular expression too big"
  | fuel + 1, depth => do
    let first ← branch m fuel depth true
    match sign? m (← rest) with
    | some (.bar, behind) =>
      skipTo behind
      pure (.either first (← choices m fuel depth))
    | _ => pure first

/-- Parts in a row; at the beginning a star stands for itself. -/
def branch (m : Manner) : Nat → Nat → Bool → Read Regex
  | 0, _, _ => throw "Regular expression too big"
  | fuel + 1, depth, isFirst => do
    match ← rest with
    | [] => pure .empty
    | c :: cs =>
      let follow (r : Regex) : Read Regex := do
        let r ← repeated m (cs.length + 1) r
        pure (.seq r (← branch m fuel depth false))
      match sign? m (c :: cs) with
      | some (.open_, behind) =>
        let number := (← get).2 + 1
        set (behind, number)
        let body ← choices m fuel (depth + 1)
        match sign? m (← rest) with
        | some (.close, behind) =>
          skipTo behind
          follow (.group number body)
        | _ => throw "Unmatched ( or \\("
      | some (.close, _) =>
        if 0 < depth then pure .empty else throw "Unmatched ) or \\)"
      | some (.bar, _) => pure .empty
      | some (.count, behind) =>
        if m.extended then
          skipTo behind
          follow (exactly m '\x7b')
        else throw "Invalid preceding regular expression"
      | some (sign, behind) =>
        if sign = .star && (isFirst && !m.extended) then
          skipTo behind
          follow (exactly m '*')
        else if m.extended then
          skipTo behind
          branch m fuel depth isFirst
        else
          skipTo behind
          follow (exactly m ((c :: cs).getD 1 '*'))
      | none =>
        skipTo cs
        match c with
        | '.' => follow (.one fun _ => true)
        | '[' => follow (← brackets m cs)
        | '^' =>
          if m.extended || isFirst then pure (.seq atStart (← branch m fuel depth isFirst))
          else follow (exactly m '^')
        | '$' => follow (if endsHere m cs then atEnd else exactly m '$')
        | '\\' =>
          match cs with
          | [] => throw "Trailing backslash"
          | d :: behind =>
            skipTo behind
            if d.isDigit && d != '0' then
              let n := d.toNat - 48
              if (← get).2 < n then throw "Invalid back reference"
              else follow (.again n)
            else follow ((special? d).getD (exactly m d))
        | c => follow (exactly m c)

end

/-- **Read a regular expression.** -/
def read (m : Manner) (cs : List Char) : Except String Regex :=
  ((choices m (2 * cs.length + 4) 0).run (cs, 0)).map (·.1)

end NestedSession.Rehearsal.Regex
