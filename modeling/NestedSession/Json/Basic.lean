import NestedSession.Number.Shortest
import NestedSession.Text.Quoted

/-!
# Json/Basic — values of JSON, and how they are written for a reader

`Json.pretty` writes one member or element a line, two blanks a level, and an empty object or array
as its two brackets.
-/

namespace NestedSession

/-- A JSON value; the members of an object keep their order. -/
inductive Json where
  | null
  | bool (value : Bool)
  | int (value : Int)
  /-- A number that is not written as a whole one, or that 64 bits cannot hold. -/
  | float (value : Binary64)
  | str (value : String)
  | arr (elements : List Json)
  | obj (members : List (String × Json))
  deriving Repr, Inhabited

namespace Json

/-- A hexadecimal number of four digits. -/
def hex4 (n : Nat) : String :=
  let digits := Text.hex n
  String.ofList (List.replicate (4 - digits.length) '0') ++ digits

/-- A character of a JSON string. -/
def escapeChar (c : Char) : String :=
  match c with
  | '"' => "\\\""
  | '\\' => "\\\\"
  | '\n' => "\\n"
  | '\r' => "\\r"
  | '\t' => "\\t"
  | '\x08' => "\\b"
  | '\x0c' => "\\f"
  | c => if c.toNat < 0x20 then "\\u" ++ hex4 c.toNat else c.toString

/-- A JSON string: controls, quotes and backslashes are escaped, nothing else is. -/
def quoted (text : String) : String :=
  text.toList.foldl (fun acc c => acc ++ escapeChar c) "\"" ++ "\""

/-- `depth` levels of indentation on a new line. -/
def newline (depth : Nat) : String := "\n" ++ String.ofList (List.replicate (2 * depth) ' ')

mutual

/-- A value at a depth. -/
def prettyAt (depth : Nat) : Json → String
  | null => "null"
  | bool true => "true"
  | bool false => "false"
  | int n => toString n
  | float x => x.compact
  | str s => quoted s
  | arr [] => "[]"
  | arr (e :: es) => "[" ++ prettyElements (depth + 1) (e :: es) ++ newline depth ++ "]"
  | obj [] => "\x7b\x7d"
  | obj (m :: ms) => "\x7b" ++ prettyMembers (depth + 1) (m :: ms) ++ newline depth ++ "\x7d"

/-- The elements of an array, each on its line. -/
def prettyElements (depth : Nat) : List Json → String
  | [] => ""
  | [e] => newline depth ++ prettyAt depth e
  | e :: es => newline depth ++ prettyAt depth e ++ "," ++ prettyElements depth es

/-- The members of an object, each on its line. -/
def prettyMembers (depth : Nat) : List (String × Json) → String
  | [] => ""
  | [(k, v)] => newline depth ++ quoted k ++ ": " ++ prettyAt depth v
  | (k, v) :: ms =>
    newline depth ++ quoted k ++ ": " ++ prettyAt depth v ++ "," ++ prettyMembers depth ms

end

/-- **A value for a reader**, over several lines. -/
def pretty (value : Json) : String := prettyAt 0 value

end Json

end NestedSession
