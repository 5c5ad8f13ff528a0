import NestedSession.Text.Invisible
import NestedSession.Text.Utf8

/-!
# Text/Quoted — a text between double quotes

Messages quote the text they are about, so that blanks, quotes and characters that leave no mark
can be told apart.  Quotes and backslashes get a backslash, the usual controls a letter, and every
other invisible character its number in braces.
-/

namespace NestedSession.Text

/-- A number in hexadecimal, without leading zeros. -/
def hex (n : Nat) : String := String.ofList (Nat.toDigits 16 n)

/-- A character inside double quotes. -/
def quoteChar (c : Char) : String :=
  match c with
  | '"' => "\\\""
  | '\\' => "\\\\"
  | '\n' => "\\n"
  | '\r' => "\\r"
  | '\t' => "\\t"
  | '\x00' => "\\0"
  | c => if isInvisible c then "\\u\x7b" ++ hex c.toNat ++ "\x7d" else c.toString

/-- **A text in double quotes.** -/
def quoted (text : String) : String :=
  text.toList.foldl (fun acc c => acc ++ quoteChar c) "\"" ++ "\""

/-- An octet that spells nothing, inside double quotes. -/
def quoteOctet (b : UInt8) : String :=
  "\\x" ++ String.ofList ((Nat.toDigits 16 (256 + b.toNat)).drop 1 |>.map Char.toUpper)

/-- Octets inside double quotes: those that spell a character as that character, the others by their
numbers. -/
def quoteOctets : Octets → String
  | [] => ""
  | b :: bs =>
    if b < 0x80 then quoteChar (Char.ofNat b.toNat) ++ quoteOctets bs
    else match Utf8.lead? b with
      | none => quoteOctet b ++ quoteOctets bs
      | some l =>
        let tails := l.tails bs
        (if tails.length = l.owed then quoteChar (Char.ofNat (Utf8.codePoint b tails))
          else String.join ((b :: tails).map quoteOctet))
          ++ quoteOctets (bs.drop tails.length)
  termination_by bs => bs.length

/-- **Octets in double quotes.** -/
def quotedOctets (bs : Octets) : String := "\"" ++ quoteOctets bs ++ "\""

/-- A list of quoted texts, in brackets. -/
def quotedList (texts : List String) : String :=
  "[" ++ ", ".intercalate (texts.map quoted) ++ "]"

end NestedSession.Text
