import NestedSession.Text.Utf8

/-!
# Text/Unstyled — a text without what steers a terminal

A terminal takes some sequences of octets as orders: most begin with an escape and end with a
letter, some run on to an end of their own.  `unstyled` leaves out orders and other controls and
keeps what would be seen, blank space included.  An order that is broken off by blank space ends
there; an escape inside an order begins a new one.
-/

namespace NestedSession.Text

/-- Where an order stands after some of its octets. -/
inductive Sequence where
  /-- No order has begun. -/
  | ground
  /-- Right behind an escape. -/
  | escape
  /-- Behind an escape and marks. -/
  | marked
  /-- Right behind an escape and a bracket. -/
  | bracket
  /-- Among the numbers of such an order. -/
  | numbers
  /-- Behind its marks. -/
  | marks
  /-- In an order of this kind that means nothing. -/
  | void
  /-- At the head of a string for a device. -/
  | device
  /-- Among the numbers of that head. -/
  | deviceNumbers
  /-- Behind its marks. -/
  | deviceMarks
  /-- In a string that only its own end or an escape ends. -/
  | string
  /-- In a string that a bell ends. -/
  | title
  deriving DecidableEq, Repr, Inhabited

namespace Sequence

/-- Blank space that is seen even though it is a control. -/
def isBlank (b : UInt8) : Bool := b = 0x09 || b = 0x0A || b = 0x0C || b = 0x0D || b = 0x20

/-- Whether a control is carried out in the middle of an order. -/
def isOpen : Sequence → Bool
  | ground | escape | marked | bracket | numbers | marks | void => true
  | _ => false

/-- Where an order stands after one more octet that is no control. -/
def next (s : Sequence) (b : UInt8) : Sequence :=
  let isMark := 0x20 ≤ b && b ≤ 0x2F
  let isNumber := 0x30 ≤ b && b ≤ 0x3B
  let isFlag := 0x3C ≤ b && b ≤ 0x3F
  let isFinal := 0x40 ≤ b && b ≤ 0x7E
  match s with
  | ground => ground
  | escape =>
    if isMark then marked
    else if b = 0x5B then bracket
    else if b = 0x5D then title
    else if b = 0x50 then device
    else if b = 0x58 || b = 0x5E || b = 0x5F then string
    else if 0x30 ≤ b && b ≤ 0x7E then ground
    else s
  | marked => if 0x30 ≤ b && b ≤ 0x7E then ground else s
  | bracket =>
    if isMark then marks
    else if isNumber || isFlag then numbers
    else if isFinal then ground
    else s
  | numbers =>
    if isMark then marks
    else if isFlag then void
    else if isFinal then ground
    else s
  | marks =>
    if isNumber || isFlag then void
    else if isFinal then ground
    else s
  | void => if isFinal then ground else s
  | device =>
    if isMark then deviceMarks
    else if isNumber || isFlag then deviceNumbers
    else if isFinal then string
    else s
  | deviceNumbers =>
    if isMark then deviceMarks
    else if isFlag || isFinal then string
    else s
  | deviceMarks => if (isNumber || isFlag) || isFinal then string else s
  | string => if b = 0x9C then ground else s
  | title => s

/-- **Where an order stands after one more octet**, and whether that octet is seen. -/
def step (s : Sequence) (b : UInt8) : Sequence × Bool :=
  if b = 0x1B then (escape, false)
  else if b = 0x18 || b = 0x1A then (ground, false)
  else if b < 0x20 then
    if s.isOpen && isBlank b then (ground, true)
    else if s = title && b = 0x07 then (ground, false)
    else (s, false)
  else if s = ground then (ground, b < 0x7F || (Utf8.lead? b).isSome)
  else (s.next b, false)

end Sequence

/-- The octets that are seen.  `shown` says whether the octet before was: then the rest of its
character is seen as well. -/
def seenOctets (s : Sequence) (shown : Bool) : Octets → Octets
  | [] => []
  | b :: bs =>
    if shown && Utf8.isTail b then b :: seenOctets s true bs
    else
      let (s, seen) := s.step b
      if seen then b :: seenOctets .ground true bs else seenOctets s false bs

/-- **A text as it is seen.** -/
def unstyled (text : String) : String := Utf8.lossy (seenOctets .ground false (Utf8.encode text))

end NestedSession.Text
