import NestedSession.Text.Utf8

/-!
# Rehearsal/Latin — octets as characters

Scripts and what they work on are octets.  Here they are texts with one character for each octet,
so that nothing is lost and patterns can be written down.
-/

namespace NestedSession.Rehearsal.Latin

/-- The character of an octet. -/
def character (b : UInt8) : Char := Char.ofNat b.toNat

/-- The octet of a character. -/
def octet (c : Char) : UInt8 := UInt8.ofNat c.toNat

/-- The characters of octets. -/
def characters (bs : Octets) : List Char := bs.map character

/-- The octets of characters. -/
def spell (cs : List Char) : Octets := cs.map octet

/-- Octets as a text. -/
def text (bs : Octets) : String := String.ofList (characters bs)

/-- The octets of such a text. -/
def octets (t : String) : Octets := spell t.toList

end NestedSession.Rehearsal.Latin
