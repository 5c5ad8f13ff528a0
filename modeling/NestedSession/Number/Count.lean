/-!
# Number/Count — counts in decimal, and totals

A count is written with digits, perhaps behind a plus sign, and lies below `2 ^ 64`.  What is wrong
with a text that is none is decided from left to right, at the first character that rules a count
out.
-/

namespace NestedSession

/-- Why a text is no count. -/
inductive CountFault where
  | empty
  | badDigit
  | tooLarge
  deriving DecidableEq, Repr, Inhabited

/-- The text of a fault. -/
def CountFault.text : CountFault → String
  | empty => "cannot parse integer from empty string"
  | badDigit => "invalid digit found in string"
  | tooLarge => "number too large to fit in target type"

namespace Count

/-- Read digits behind those that make `n`. -/
def readDigits (n : Nat) : List Char → Except CountFault Nat
  | [] => .ok n
  | c :: rest =>
    let more := 10 * n + (c.toNat - 48)
    if !c.isDigit then .error .badDigit
    else if more < UInt64.size then readDigits more rest
    else .error .tooLarge

/-- **Read a count.**  A sign alone is no count. -/
def read (text : String) : Except CountFault UInt64 :=
  let digits := match text.toList with
    | '+' :: c :: rest => c :: rest
    | cs => cs
  if digits.isEmpty then .error .empty else (readDigits 0 digits).map UInt64.ofNat

end Count

/-- **The total of numbers.** -/
def Number.total (ns : List Nat) : Nat := ns.foldl (· + ·) 0

end NestedSession
