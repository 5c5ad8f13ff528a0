/-!
# Text/Utf8 — octets and the characters they spell

Paths, variables and the output of a child are octets; settings and captured text are characters.
`Utf8.encode` spells a text, `Utf8.decodeLossy` reads any octets, and `Utf8.decode?` reads those
that are well formed.

* a lead octet fixes how many octets follow it and which ones the first of them may be (`lead?`);
* a **maximal subpart** — the longest beginning of a sequence that the octets hold — is replaced
  by one U+FFFD, and so is each octet that begins nothing.
-/

namespace NestedSession

/-- Octets as the operating system hands them over, with no promise of any encoding. -/
abbrev Octets := List UInt8

namespace Utf8

/-- The character that stands for octets which spell none. -/
def replacement : Char := '\uFFFD'

/-- What a lead octet promises: `owed` octets follow, the first of them in `[lo, hi]`. -/
structure Lead where
  owed : Nat
  lo : UInt8
  hi : UInt8
  deriving DecidableEq, Repr

/-- **The lead octets**, with the narrower second octets that keep out long spellings (E0, F0),
surrogates (ED) and numbers above 10FFFF (F4). -/
def lead? (b : UInt8) : Option Lead :=
  if b < 0xC2 then none
  else if b < 0xE0 then some ⟨1, 0x80, 0xBF⟩
  else if b = 0xE0 then some ⟨2, 0xA0, 0xBF⟩
  else if b = 0xED then some ⟨2, 0x80, 0x9F⟩
  else if b < 0xF0 then some ⟨2, 0x80, 0xBF⟩
  else if b = 0xF0 then some ⟨3, 0x90, 0xBF⟩
  else if b < 0xF4 then some ⟨3, 0x80, 0xBF⟩
  else if b = 0xF4 then some ⟨3, 0x80, 0x8F⟩
  else none

/-- An octet that can only continue a sequence. -/
def isTail (b : UInt8) : Bool := 0x80 ≤ b && b ≤ 0xBF

/-- The octets of `bs` that continue a sequence begun by a lead octet, at most as many as it is
owed. -/
def Lead.tails (l : Lead) : Octets → Octets
  | [] => []
  | b :: bs => if l.lo ≤ b && b ≤ l.hi then b :: (bs.take (l.owed - 1)).takeWhile isTail else []

/-- The number a sequence spells: the payload of the lead octet `b`, then six bits of each tail. -/
def codePoint (b : UInt8) (tails : Octets) : Nat :=
  tails.foldl (fun n t => n * 64 + t.toNat % 64) (b.toNat % Nat.pow 2 (6 - tails.length))

/-- **The characters of any octets**: a maximal subpart of a sequence that does not complete is
replaced as a whole. -/
def decodeLossy : Octets → List Char
  | [] => []
  | b :: bs =>
    if b < 0x80 then Char.ofNat b.toNat :: decodeLossy bs
    else match lead? b with
      | none => replacement :: decodeLossy bs
      | some l =>
        let tails := l.tails bs
        (if tails.length = l.owed then Char.ofNat (codePoint b tails) else replacement)
          :: decodeLossy (bs.drop tails.length)
  termination_by bs => bs.length

/-- The octets that spell a text. -/
def encode (text : String) : Octets := text.toList.flatMap String.utf8EncodeChar

/-- The text of octets, with what is ill formed replaced. -/
def lossy (bs : Octets) : String := String.ofList (decodeLossy bs)

/-- **The text that octets spell exactly**, if there is one. -/
def decode? (bs : Octets) : Option String :=
  if encode (lossy bs) = bs then some (lossy bs) else none

/-- The character that octets begin with, if they begin with one. -/
def first? (bs : Octets) : Option Char :=
  [1, 2, 3, 4].findSome? fun n => (decode? (bs.take n)).bind (·.toList.head?)

theorem encode_of_decode? {bs : Octets} {text : String} (h : decode? bs = some text) :
    encode text = bs := by
  rw [decode?] at h
  split at h
  · next hb => rw [← Option.some.inj h, hb]
  · exact nomatch h

@[simp] theorem encode_append (a b : String) : encode (a ++ b) = encode a ++ encode b := by
  simp [encode, String.toList_append, List.flatMap_append]

end Utf8

end NestedSession
