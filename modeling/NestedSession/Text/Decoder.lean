import NestedSession.Text.Utf8

/-!
# Text/Decoder — reading characters from octets that arrive in pieces

A `Decoder` is fed one octet at a time and keeps back only the beginning of a sequence that later
octets may still complete.  Because it is a machine, cutting the input in another place changes
nothing: `push_append`.
-/

namespace NestedSession

/-- Decoded text, and the octets of a sequence that is not complete yet. -/
structure Decoder where
  text : String
  pending : Octets
  deriving DecidableEq, Repr, Inhabited

namespace Decoder

open Utf8

/-- A decoder that has read nothing. -/
def empty : Decoder := ⟨"", []⟩

/-- Whether `b` may follow the octets held back. -/
def continues (pending : Octets) (b : UInt8) : Bool :=
  match pending with
  | [] => false
  | [lead] => match lead? lead with
    | some l => l.lo ≤ b && b ≤ l.hi
    | none => false
  | _ => isTail b

/-- Whether the octets held back are a whole sequence. -/
def isWhole (pending : Octets) : Bool :=
  match pending with
  | [] => false
  | lead :: tails => match lead? lead with
    | some l => tails.length = l.owed
    | none => false

/-- Read an octet with nothing held back. -/
def begin (text : String) (b : UInt8) : Decoder :=
  if b < 0x80 then ⟨text.push (Char.ofNat b.toNat), []⟩
  else if (lead? b).isSome then ⟨text, [b]⟩
  else ⟨text.push replacement, []⟩

/-- **Read one octet.**  It completes what is held back, extends it, or shows that it can never
be completed: then one U+FFFD takes its place and the octet is read afresh. -/
def feed (d : Decoder) (b : UInt8) : Decoder :=
  match d.pending with
  | [] => begin d.text b
  | lead :: tails =>
    if continues d.pending b then
      let grown := tails ++ [b]
      if isWhole (lead :: grown) then ⟨d.text.push (Char.ofNat (codePoint lead grown)), []⟩
      else ⟨d.text, lead :: grown⟩
    else begin (d.text.push replacement) b

/-- Read some octets. -/
def push (d : Decoder) (bs : Octets) : Decoder := bs.foldl feed d

/-- **No more octets will come**: what is held back becomes one U+FFFD. -/
def flush (d : Decoder) : Decoder :=
  if d.pending.isEmpty then d else ⟨d.text.push replacement, []⟩

@[simp] theorem push_nil (d : Decoder) : d.push [] = d := rfl

/-- **Where the octets are cut does not matter.** -/
theorem push_append (d : Decoder) (as bs : Octets) : d.push (as ++ bs) = (d.push as).push bs :=
  List.foldl_append

@[simp] theorem flush_pending (d : Decoder) : d.flush.pending = [] := by
  rw [flush]
  split
  · next h => exact List.isEmpty_iff.mp h
  · rfl

end Decoder

end NestedSession
