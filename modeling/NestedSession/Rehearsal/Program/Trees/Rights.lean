import NestedSession.Number.Count
import NestedSession.Rehearsal.Script.Sum

/-!
# Rehearsal/Program/Trees/Rights — who may do what with a file

Rights are twelve bits: three for the owner, three for the group, three for all others, and three
that change whose rights a program has.  They are given as an octal number, or as clauses that say
who gets or loses which of them.
-/

namespace NestedSession.Rehearsal.Rights

/-- All rights. -/
def all : Nat := 0o7777

/-- The bits that are someone's. -/
def bitsOfWho (c : Char) : Nat :=
  match c with
  | 'u' => 0o4700
  | 'g' => 0o2070
  | 'o' => 0o1007
  | _ => all

/-- The bits that a letter means, if it is a right. -/
def bitsOfRight? (mode : Nat) (isDirectory : Bool) (c : Char) : Option Nat :=
  match c with
  | 'r' => some 0o444
  | 'w' => some 0o222
  | 'x' => some 0o111
  | 'X' => some (if isDirectory || mode &&& 0o111 != 0 then 0o111 else 0)
  | 's' => some 0o6000
  | 't' => some 0o1000
  | 'u' => some (mode / 64 % 8 * 0o111)
  | 'g' => some (mode / 8 % 8 * 0o111)
  | 'o' => some (mode % 8 * 0o111)
  | _ => none

/-- Rights without some. -/
def without (mode bits : Nat) : Nat := mode - (mode &&& bits)

/-- The rights of one clause behind those whom it is about: signs with letters. -/
def actions (who : Nat) (isDirectory : Bool) : Nat → Nat → List Char → Option Nat
  | 0, _, _ => none
  | _, mode, [] => some mode
  | fuel + 1, mode, sign :: rest =>
    let letters := rest.takeWhile fun c => !"+-=".toList.contains c
    match letters.mapM (bitsOfRight? mode isDirectory) with
    | none => none
    | some bits =>
      let bits := bits.foldl (· ||| ·) 0 &&& who
      let next? : Option Nat := match sign with
        | '+' => some (mode ||| bits)
        | '-' => some (without mode bits)
        | '=' => some (without mode (if isDirectory then without who 0o6000 else who) ||| bits)
        | _ => none
      next?.bind fun next => actions who isDirectory fuel next (rest.drop letters.length)

/-- The rights that a clause leaves; the mask counts where nobody is named. -/
def clause (mask : Nat) (isDirectory : Bool) (mode : Nat) (cs : List Char) : Option Nat :=
  let names := cs.takeWhile fun c => "ugoa".toList.contains c
  let who := if names.isEmpty then without all mask
    else (names.map bitsOfWho).foldl (· ||| ·) 0
  let rest := cs.drop names.length
  if rest.isEmpty then none else actions who isDirectory (rest.length + 1) mode rest

/-- **The rights that a text makes of others**; a directory keeps two bits if few digits are
given. -/
def changed (mask : Nat) (isDirectory : Bool) (mode : Nat) (text : String) : Option Nat :=
  let cs := text.toList
  let isOctal := !cs.isEmpty && cs.all fun c => '0' ≤ c && c ≤ '7'
  if isOctal then
    let n := (Number.digits 8 cs).1
    if all < n then none
    else if isDirectory && cs.length < 5 then some (n ||| (mode &&& 0o6000)) else some n
  else (cs.splitOn ',').foldlM (clause mask isDirectory) mode

/-- Three rights as letters; the last may stand for two. -/
def lettersOf (n : Nat) (isSpecial : Bool) (special : Char) : List Char :=
  [if n / 4 % 2 = 1 then 'r' else '-', if n / 2 % 2 = 1 then 'w' else '-',
    if isSpecial then (if n % 2 = 1 then special else special.toUpper)
    else if n % 2 = 1 then 'x' else '-']

/-- **Rights as nine letters.** -/
def letters (mode : Nat) : String := String.ofList <|
  lettersOf (mode / 64) (mode / 2048 % 2 = 1) 's' ++ lettersOf (mode / 8) (mode / 1024 % 2 = 1) 's'
    ++ lettersOf mode (mode / 512 % 2 = 1) 't'

/-- Rights as at least so many octal digits. -/
def octal (width mode : Nat) : String :=
  let ds := Nat.toDigits 8 mode
  String.ofList (List.replicate (width - ds.length) '0' ++ ds)

end NestedSession.Rehearsal.Rights
