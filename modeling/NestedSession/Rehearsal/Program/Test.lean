import NestedSession.Rehearsal.Latin
import NestedSession.Rehearsal.Script.Sum

/-!
# Rehearsal/Program/Test — conditions on texts, numbers and files

A condition is a list of words.  Up to four words are read by their number, so that a text is never
taken for a sign; more are joined by `-a` and `-o`.
-/

namespace NestedSession.Rehearsal.Test

/-- The kinds of signs. -/
inductive Kind where
  | unary
  | binary
  | negation
  | both
  | either
  | open_
  | close
  deriving DecidableEq, Repr

/-- The signs of two operands. -/
def binarySigns : List String :=
  ["=", "!=", "<", ">", "-eq", "-ne", "-ge", "-gt", "-le", "-lt", "-nt", "-ot", "-ef"]

/-- The signs of one operand. -/
def unarySigns : List String :=
  ["-r", "-w", "-x", "-e", "-f", "-d", "-c", "-b", "-p", "-u", "-g", "-k", "-s", "-t", "-z", "-n",
    "-h", "-O", "-G", "-L", "-S"]

/-- The kind of a sign. -/
def kind? (word : String) : Option Kind :=
  if binarySigns.contains word then some .binary
  else if unarySigns.contains word then some .unary
  else match word with
    | "!" => some .negation
    | "-a" => some .both
    | "-o" => some .either
    | "(" => some .open_
    | ")" => some .close
    | _ => none

/-- The files that conditions are about. -/
structure View where
  files : Files
  cwd : Place

namespace View

/-- The node at a path. -/
def node? (v : View) (word : String) : Option FileNode :=
  (v.files.find v.cwd (Latin.octets word)).toOption

/-- The number of the node at a path. -/
def number? (v : View) (word : String) : Option Nat :=
  ((v.files.place? v.cwd (Latin.octets word)).toOption).bind v.files.number?

/-- Whether there is a link at a path. -/
def isLink (v : View) (word : String) : Bool :=
  match v.files.placeOfLink? v.cwd (Latin.octets word) with
  | .ok place => (v.files.at? place).any (·.isLink)
  | .error _ => false

end View

/-- The number that a word is. -/
def numberOf (word : String) : Except String Int :=
  match Number.whole? (some 10) word.toList with
  | some n => .ok n
  | none => .error ("Illegal number: " ++ word)

/-- The value of a condition on one operand. -/
def unary (v : View) (sign word : String) : Except String Bool :=
  match sign with
  | "-z" => .ok word.isEmpty
  | "-n" => .ok (!word.isEmpty)
  | "-t" => (numberOf word).map fun _ => false
  | "-h" | "-L" => .ok (v.isLink word)
  | _ =>
    match v.node? word with
    | none => .ok false
    | some node => .ok <| match sign with
      | "-f" => match node.content with
        | .plain _ => true
        | _ => false
      | "-d" => node.isDirectory
      | "-c" => match node.content with
        | .device _ => true
        | _ => false
      | "-s" => 0 < node.size
      | "-x" => node.isDirectory || node.runs
      | "-b" | "-p" | "-S" | "-u" | "-g" | "-k" => false
      | _ => true

/-- The value of a condition on two operands. -/
def binary (v : View) (sign a b : String) : Except String Bool :=
  let compare (test : Int → Int → Bool) : Except String Bool := do
    let x ← numberOf a
    let y ← numberOf b
    .ok (test x y)
  let times (test : Nat → Nat → Bool) : Except String Bool :=
    match v.node? a, v.node? b with
    | some x, some y => .ok (test x.changed y.changed)
    | _, _ => .ok false
  match sign with
  | "=" => .ok (a == b)
  | "!=" => .ok (a != b)
  | "<" => .ok (a < b)
  | ">" => .ok (b < a)
  | "-eq" => compare (· == ·)
  | "-ne" => compare (· != ·)
  | "-lt" => compare (· < ·)
  | "-le" => compare (· ≤ ·)
  | "-gt" => compare (· > ·)
  | "-ge" => compare (· ≥ ·)
  | "-nt" => times (· > ·)
  | "-ot" => times (· < ·)
  | _ => .ok ((v.number? a).isSome && v.number? a == v.number? b)

/-- What a word is at its place: a sign, or an operand. -/
def tokenOf (words : List String) : Option Kind :=
  match words with
  | [] => none
  | word :: rest =>
    match kind? word with
    | some .unary =>
      match rest with
      | [] => none
      | [_] => some .unary
      | next :: _ => if kind? next = some .binary then none else some .unary
    | some .open_ => if rest.isEmpty then none else some .open_
    | other => other

/-- Give up over a word. -/
def refuse {α : Type} (word : Option String) (why : String) : Except String α :=
  match word with
  | some w => if w.isEmpty then .error why else .error (w ++ ": " ++ why)
  | none => .error why

mutual

/-- Conditions of which one must hold.  The answer comes with the words that are left, the last one
read first. -/
def either (v : View) : Nat → Option Kind → List String → Except String (Bool × List String)
  | 0, _, words => .ok (false, words)
  | fuel + 1, kind, words => do
    let (a, words) ← both v fuel kind words
    if tokenOf (words.drop 1) = some .either then
      let rest := words.drop 2
      let (b, words) ← either v fuel (tokenOf rest) rest
      .ok (a || b, words)
    else .ok (a, words)

/-- Conditions all of which must hold. -/
def both (v : View) : Nat → Option Kind → List String → Except String (Bool × List String)
  | 0, _, words => .ok (false, words)
  | fuel + 1, kind, words => do
    let (a, words) ← negated v fuel kind words
    if tokenOf (words.drop 1) = some .both then
      let rest := words.drop 2
      let (b, words) ← both v fuel (tokenOf rest) rest
      .ok (a && b, words)
    else .ok (a, words)

/-- A condition that may be turned round. -/
def negated (v : View) : Nat → Option Kind → List String → Except String (Bool × List String)
  | 0, _, words => .ok (false, words)
  | fuel + 1, kind, words =>
    if kind = some .negation then do
      let rest := words.drop 1
      let (a, words) ← negated v fuel (tokenOf rest) rest
      .ok (!a, words)
    else primary v fuel kind words

/-- A single condition. -/
def primary (v : View) : Nat → Option Kind → List String → Except String (Bool × List String)
  | 0, _, words => .ok (false, words)
  | fuel + 1, kind, words =>
    match words with
    | [] => .ok (false, [])
    | word :: rest =>
      match kind with
      | some .open_ =>
        if tokenOf rest = some .close then .ok (false, rest)
        else do
          let (a, words) ← either v fuel (tokenOf rest) rest
          if tokenOf (words.drop 1) = some .close then .ok (a, words.drop 1)
          else refuse none "closing paren expected"
      | some .unary =>
        match rest with
        | [] => refuse (some word) "argument expected"
        | operand :: _ => do
          .ok (← unary v word operand, rest)
      | _ =>
        if tokenOf rest = some .binary then
          match rest with
          | sign :: operand :: more => do
            .ok (← binary v sign word operand, operand :: more)
          | sign :: [] => refuse (some sign) "argument expected"
          | [] => .ok (!word.isEmpty, words)
        else .ok (!word.isEmpty, words)

end

/-- The value of a condition; `wanted` is what it is compared with. -/
def holdsOn (v : View) : Nat → Bool → List String → Except String Bool
  | 0, _, _ => .ok false
  | fuel + 1, wanted, words =>
    let whole (kind : Option Kind) (words : List String) : Except String Bool := do
      let (a, rest) ← either v (4 * words.length + 8) kind words
      match rest with
      | word :: _ :: _ => refuse (some word) "unexpected operator"
      | _ => .ok (a == wanted)
    let shorter (words : List String) : Except String Bool :=
      match words with
      | "(" :: rest =>
        if rest.getLast? = some ")" then whole (tokenOf rest.dropLast) rest.dropLast
        else whole (tokenOf words) words
      | "!" :: rest => holdsOn v fuel false rest
      | words => whole (tokenOf words) words
    match words with
    | [] => .ok (!wanted)
    | [_, sign, _] => if kind? sign = some .binary then whole none words else shorter words
    | [_, _, _, _] => shorter words
    | words => whole (tokenOf words) words

/-- **Whether a condition holds.** -/
def holds (v : View) (words : List String) : Except String Bool :=
  holdsOn v (words.length + 1) true words

end NestedSession.Rehearsal.Test
