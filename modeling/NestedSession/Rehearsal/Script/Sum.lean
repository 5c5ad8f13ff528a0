import NestedSession.Rehearsal.Script.Shell

/-!
# Rehearsal/Script/Sum — expressions over whole numbers

    assignment ← name ("=" | "+=" | …) assignment | choice
    choice     ← either ("?" assignment ":" choice)?
    either     ← both ("||" either)?
    both       ← binary ("&&" both)?
    binary     ← operands of the signs of `Sum.levels`, the tightest first
    operand    ← number | name | "(" assignment ")" | ("+" | "-" | "!" | "~") operand

Numbers are words of 64 bits.  What does not matter for the value is read but not worked out.
-/

namespace NestedSession.Rehearsal

/-! ## Numbers -/

namespace Number

/-- The value of a digit in some base. -/
def digit? (base : Nat) (c : Char) : Option Nat :=
  let n := if c.isDigit then c.toNat - 48
    else if 'a' ≤ c && c ≤ 'z' then c.toNat - 87
    else if 'A' ≤ c && c ≤ 'Z' then c.toNat - 55
    else 36
  if n < base then some n else none

/-- The number that digits begin with, and how many there are. -/
def digits (base : Nat) (cs : List Char) : Nat × Nat :=
  let ds := cs.takeWhile fun c => (digit? base c).isSome
  (ds.foldl (fun n c => base * n + (digit? base c).getD 0) 0, ds.length)

/-- Whether a character is a blank. -/
def isSpace (c : Char) : Bool := c = ' ' || (9 ≤ c.toNat && c.toNat ≤ 13)

/-- The greatest number of 64 bits. -/
def greatest : Int := 9223372036854775807

/-- A number cut down to 64 bits, and whether it had to be. -/
def clamped (n : Int) : Int × Bool :=
  if greatest < n then (greatest, true)
  else if n < -greatest - 1 then (-greatest - 1, true)
  else (n, false)

/-- A number that a text begins with. -/
structure Leading where
  value : Int
  isCut : Bool
  rest : List Char
  isEmpty : Bool

/-- The unsigned number that a text begins with; without a base the text says which. -/
def leadingNat (base : Option Nat) (cs : List Char) : Option (Nat × List Char) :=
  let plain (base : Nat) (cs : List Char) : Option (Nat × List Char) :=
    let (n, count) := digits base cs
    if count = 0 then none else some (n, cs.drop count)
  let hex (cs : List Char) : Option (Nat × List Char) :=
    match cs with
    | '0' :: x :: rest => if x = 'x' || x = 'X' then plain 16 rest else none
    | _ => none
  match base with
  | none =>
    match hex cs with
    | some found => some found
    | none => if cs.head? = some '0' then plain 8 cs else plain 10 cs
  | some 16 => (hex cs).orElse fun () => plain 16 cs
  | some base => plain base cs

/-- **The number that a text begins with**, after blanks and a sign. -/
def leading (base : Option Nat) (cs : List Char) : Leading :=
  let trimmed := cs.dropWhile isSpace
  let (negative, unsigned) := match trimmed with
    | '-' :: rest => (true, rest)
    | '+' :: rest => (false, rest)
    | rest => (false, rest)
  match leadingNat base unsigned with
  | none => ⟨0, false, cs, true⟩
  | some (n, rest) =>
    let (value, isCut) := clamped (if negative then -(n : Int) else n)
    ⟨value, isCut, rest, false⟩

/-- **The number that a text is**, with blanks around it. -/
def whole? (base : Option Nat) (cs : List Char) : Option Int :=
  let n := leading base cs
  if n.isEmpty || n.isCut || !(n.rest.dropWhile isSpace).isEmpty then none else some n.value

end Number

namespace Sum

/-- A token of an expression. -/
inductive Token where
  | number (n : Int64)
  | name (text : String)
  | sign (text : String)
  /-- Nothing that could stand in an expression. -/
  | bad
  deriving DecidableEq

/-- The signs, the longer ones first. -/
def signs : List String :=
  ["<<=", ">>=", "<<", ">>", "<=", ">=", "==", "!=", "&&", "||", "+=", "-=", "*=", "/=", "%=",
    "&=", "^=", "|=", "=", "<", ">", "+", "-", "*", "/", "%", "&", "^", "|", "!", "~", "(", ")",
    "?", ":"]

/-- The tokens of an expression. -/
def tokens : Nat → List Char → List Token
  | 0, _ => []
  | _, [] => []
  | fuel + 1, c :: rest =>
    let cs := c :: rest
    if c = ' ' || c = '\t' || c = '\n' then tokens fuel rest
    else if c.isDigit then
      let n := Number.leading none cs
      let rest := if n.isEmpty then rest else n.rest
      .number (Int64.ofInt n.value) :: tokens fuel rest
    else if Word.beginsName c then
      let name := cs.takeWhile Word.isInName
      .name (String.ofList name) :: tokens fuel (cs.drop name.length)
    else
      match signs.find? fun s => s.toList.isPrefixOf cs with
      | some s => .sign s :: tokens fuel (cs.drop s.length)
      | none => [.bad]

/-- Working an expression out: the tokens that are left and the shell; a fault is a text. -/
abbrev Work (α : Type) : Type := StateT (List Token × Shell) (Except String) α

/-- The signs of two operands, with their levels; the tightest level is zero. -/
def levels : List (String × Nat) :=
  [("*", 0), ("/", 0), ("%", 0), ("+", 1), ("-", 1), ("<<", 2), (">>", 2), ("<", 3), ("<=", 3),
    (">", 3), (">=", 3), ("==", 4), ("!=", 4), ("&", 5), ("^", 6), ("|", 7)]

/-- The signs that set a variable, with what they do before. -/
def settings : List (String × Option String) :=
  [("=", none), ("+=", some "+"), ("-=", some "-"), ("*=", some "*"), ("/=", some "/"),
    ("%=", some "%"), ("<<=", some "<<"), (">>=", some ">>"), ("&=", some "&"), ("^=", some "^"),
    ("|=", some "|")]

/-- One if a condition holds, else zero. -/
def truth (b : Bool) : Int64 := if b then 1 else 0

/-- Give up on an expression. -/
def refuse {α : Type} (expression why : String) : Work α :=
  throw ("arithmetic expression: " ++ why ++ ": \"" ++ expression ++ "\"")

/-- What a sign makes of two numbers. -/
def combine (expression sign : String) (a b : Int64) : Work Int64 :=
  match sign with
  | "*" => pure (a * b)
  | "/" => if b = 0 then refuse expression "division by zero" else pure (a / b)
  | "%" => if b = 0 then refuse expression "division by zero" else pure (a % b)
  | "+" => pure (a + b)
  | "-" => pure (a - b)
  | "<<" => pure (a <<< b)
  | ">>" => pure (a >>> b)
  | "<" => pure (truth (a < b))
  | "<=" => pure (truth (a ≤ b))
  | ">" => pure (truth (b < a))
  | ">=" => pure (truth (b ≤ a))
  | "==" => pure (truth (a = b))
  | "!=" => pure (truth (a ≠ b))
  | "&" => pure (a &&& b)
  | "^" => pure (a ^^^ b)
  | _ => pure (a ||| b)

/-- The number that a variable holds. -/
def numberOf (name : String) : Work Int64 := do
  let (_, sh) ← get
  match sh.get? name with
  | none => pure 0
  | some value =>
    if (value.toList.dropWhile Number.isSpace).isEmpty then pure 0
    else match Number.whole? none value.toList with
      | some n => pure (Int64.ofInt n)
      | none => throw ("Illegal number: " ++ value)

/-- Set a variable to a number. -/
def put (name : String) (n : Int64) : Work Unit := do
  let (ts, sh) ← get
  if sh.isFixed name then throw (name ++ ": is read only")
  else set (ts, sh.set name (toString n))

/-- The next token, which stays. -/
def peek : Work (Option Token) := do
  pure (← get).1.head?

/-- Pass over a token. -/
def skip : Work Unit := modify fun (ts, sh) => (ts.drop 1, sh)

mutual

/-- An assignment. -/
def assignment (e : String) : Nat → Bool → Work Int64
  | 0, _ => refuse e "expecting primary"
  | fuel + 1, idle => do
    match (← get).1 with
    | .name name :: .sign sign :: _ =>
      match settings.lookup sign with
      | none => choice e fuel idle
      | some before =>
        skip
        skip
        let n ← assignment e fuel idle
        if idle then pure n
        else
          let n ← match before with
            | none => pure n
            | some sign => do combine e sign (← numberOf name) n
          put name n
          pure n
    | _ => choice e fuel idle

/-- A choice between two. -/
def choice (e : String) : Nat → Bool → Work Int64
  | 0, _ => refuse e "expecting primary"
  | fuel + 1, idle => do
    let a ← either e fuel idle
    if (← peek) = some (.sign "?") then
      skip
      let b ← assignment e fuel (idle || a = 0)
      if (← peek) != some (.sign ":") then refuse e "expecting ':'"
      else
        skip
        let c ← choice e fuel (idle || a != 0)
        pure (if a != 0 then b else c)
    else pure a

/-- Whether one of several is not zero. -/
def either (e : String) : Nat → Bool → Work Int64
  | 0, _ => refuse e "expecting primary"
  | fuel + 1, idle => do
    let a ← both e fuel idle
    if (← peek) = some (.sign "||") then
      skip
      let b ← either e fuel (idle || a != 0)
      pure (truth (a != 0 || b != 0))
    else pure a

/-- Whether none of several is zero. -/
def both (e : String) : Nat → Bool → Work Int64
  | 0, _ => refuse e "expecting primary"
  | fuel + 1, idle => do
    let a ← operand e fuel idle
    let a ← binary e fuel idle a 8
    if (← peek) = some (.sign "&&") then
      skip
      let b ← both e fuel (idle || a = 0)
      pure (truth (a != 0 && b != 0))
    else pure a

/-- What signs below a level make of a number and what comes after it. -/
def binary (e : String) : Nat → Bool → Int64 → Nat → Work Int64
  | 0, _, _, _ => refuse e "expecting primary"
  | fuel + 1, idle, a, bound => do
    match ← peek with
    | some (.sign sign) =>
      match levels.lookup sign with
      | none => pure a
      | some level =>
        if bound ≤ level then pure a
        else
          skip
          let b ← operand e fuel idle
          let b ← binary e fuel idle b level
          let a ← if idle then pure b else combine e sign a b
          binary e fuel idle a bound
    | _ => pure a

/-- A single operand. -/
def operand (e : String) : Nat → Bool → Work Int64
  | 0, _ => refuse e "expecting primary"
  | fuel + 1, idle => do
    match ← peek with
    | some (.number n) =>
      skip
      pure n
    | some (.name name) =>
      skip
      if idle then pure 0 else numberOf name
    | some (.sign "(") =>
      skip
      let n ← assignment e fuel idle
      if (← peek) != some (.sign ")") then refuse e "expecting ')'"
      else
        skip
        pure n
    | some (.sign "+") =>
      skip
      operand e fuel idle
    | some (.sign "-") =>
      skip
      pure (0 - (← operand e fuel idle))
    | some (.sign "!") =>
      skip
      pure (truth ((← operand e fuel idle) = 0))
    | some (.sign "~") =>
      skip
      pure (-1 - (← operand e fuel idle))
    | _ => refuse e "expecting primary"

end

/-- **Work an expression out**; it may set variables. -/
def value (expression : String) (sh : Shell) : Except String (Int64 × Shell) := do
  let ts := tokens (expression.length + 1) expression.toList
  let (n, rest, sh) ← (assignment expression (10 * ts.length + 20) false).run (ts, sh)
  if rest.isEmpty then .ok (n, sh)
  else .error ("arithmetic expression: expecting EOF: \"" ++ expression ++ "\"")

end Sum

end NestedSession.Rehearsal
