import NestedSession.Json.Basic

/-!
# Json/Choice — one of several named alternatives

An alternative is written as its name; one that carries a text is written as an object with that
name as its single member.  A bare alternative may also be such an object, with null as the member.
`Choice.read` says which alternative a value is, or how it fails to be one.
-/

namespace NestedSession.Json

/-- How a value fails to be one of the alternatives. -/
inductive Mismatch where
  /-- A value of the wrong shape. -/
  | shape (found : Json) (expected : String)
  /-- An object without exactly one member. -/
  | notSingle
  /-- A name that is none of the alternatives'. -/
  | unknown (name : String) (known : List String)
  /-- A bare name where the alternative carries a text. -/
  | bare
  deriving Repr, Inhabited

/-- The shape of a value, in words. -/
def shapeName : Json → String
  | null => "null"
  | bool true => "boolean `true`"
  | bool false => "boolean `false`"
  | int n => s!"integer `{n}`"
  | float x => "floating point `" ++ x.compact ++ "`"
  | str s => "string " ++ Text.quoted s
  | arr _ => "sequence"
  | obj _ => "map"

/-- A name between grave accents. -/
def ticked (name : String) : String := "`" ++ name ++ "`"

/-- Names to choose from, in words. -/
def oneOf : List String → String
  | [] => "there are no variants"
  | [a] => "expected " ++ ticked a
  | [a, b] => "expected " ++ ticked a ++ " or " ++ ticked b
  | names => "expected one of " ++ ", ".intercalate (names.map ticked)

/-- A mismatch in words. -/
def Mismatch.text : Mismatch → String
  | shape found expected => s!"invalid type: {shapeName found}, expected {expected}"
  | notSingle => "invalid value: map, expected map with a single key"
  | unknown name known => "unknown variant " ++ ticked name ++ ", " ++ oneOf known
  | bare => "invalid type: unit variant, expected newtype variant"

/-- What an alternative carries. -/
inductive Choice (α : Type) where
  /-- Nothing: the name is all. -/
  | bare (value : α)
  /-- A text. -/
  | text (make : String → α)

variable {α : Type}

/-- The alternative of a name. -/
def Choice.named (choices : List (String × Choice α)) (name : String) :
    Except Mismatch (Choice α) :=
  match choices.lookup name with
  | some choice => .ok choice
  | none => .error (.unknown name (choices.map (·.1)))

/-- **Read one of the alternatives.** -/
def Choice.read (choices : List (String × Choice α)) : Json → Except Mismatch α
  | str name => do
    match ← named choices name with
    | .bare value => .ok value
    | .text _ => .error .bare
  | obj [(name, carried)] => do
    match ← named choices name, carried with
    | .bare value, null => .ok value
    | .bare _, other => .error (.shape other "unit")
    | .text make, str s => .ok (make s)
    | .text _, other => .error (.shape other "a string")
  | obj _ => .error .notSingle
  | other => .error (.shape other "string or map")

end NestedSession.Json
