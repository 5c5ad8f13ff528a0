import NestedSession.Rehearsal.Script.Redirecting

/-!
# Rehearsal/Script/Builtin/Basic — switches and numbers of builtins

A builtin is a command that the shell plays itself.  Its switches are letters behind a hyphen, some
of which take a value; a hyphen twice ends them.
-/

namespace NestedSession.Rehearsal

/-- A command that the shell plays itself: what it makes of its words. -/
abbrev Builtin := Company → List String → Scene Nat

namespace Builtin

/-- Switches with their values, and the words behind them. -/
abbrev Switched := List (Char × String) × List String

/-- The letters of one word of switches.  `none` asks for the next word as a value. -/
def lettersOf (allowed valued : List Char) : List Char → List (Char × String) →
    Except String (List (Char × String) × Option Char)
  | [], got => .ok (got, none)
  | c :: rest, got =>
    if valued.contains c then
      if rest.isEmpty then .ok (got, some c) else .ok ((c, String.ofList rest) :: got, none)
    else if allowed.contains c then lettersOf allowed valued rest ((c, "") :: got)
    else .error ("Illegal option -" ++ String.ofList [c])

/-- The switches that words begin with. -/
def switchesOn (allowed valued : List Char) : List String → List (Char × String) →
    Except String Switched
  | [], got => .ok (got.reverse, [])
  | word :: rest, got =>
    match word.toList with
    | ['-'] => .ok (got.reverse, word :: rest)
    | ['-', '-'] => .ok (got.reverse, rest)
    | '-' :: letters => do
      match ← lettersOf allowed valued letters got with
      | (got, none) => switchesOn allowed valued rest got
      | (got, some c) =>
        match rest with
        | value :: rest => switchesOn allowed valued rest ((c, value) :: got)
        | [] => .error ("No arg for -" ++ String.ofList [c] ++ " option")
    | _ => .ok (got.reverse, word :: rest)

/-- **The switches that words begin with**; `valued` ones take a value. -/
def switches (allowed valued : String) (words : List String) : Scene Switched :=
  match switchesOn allowed.toList valued.toList words [] with
  | .ok found => pure found
  | .error why => Scene.fail why

/-- **The number that a word is.** -/
def number (word : String) : Scene Nat :=
  match Number.whole? (some 10) word.toList with
  | some n =>
    if 0 ≤ n ∧ n < 2147483648 then pure n.toNat else Scene.fail ("Illegal number: " ++ word)
  | none => Scene.fail ("Illegal number: " ++ word)

/-- A name with its value, if a word gives one. -/
def split (word : String) : String × Option String :=
  let name := word.toList.takeWhile (· != '=')
  if name.length = word.length then (word, none)
  else (String.ofList name, some (String.ofList (word.toList.drop (name.length + 1))))

/-- Give up on what is no name. -/
def demandName (name : String) : Scene Unit :=
  if Word.isName name.toList then pure () else Scene.fail (name ++ ": bad variable name")

/-- A text between single quotes; single quotes in it stand between double ones. -/
def quoteOn : Nat → List Char → List Char
  | 0, _ => []
  | fuel + 1, cs =>
    let plain := cs.takeWhile (· != '\'')
    let rest := cs.drop plain.length
    let quotes := rest.takeWhile (· == '\'')
    let behind := rest.drop quotes.length
    let quoted := if quotes.isEmpty then [] else '"' :: quotes ++ ['"']
    ('\'' :: plain ++ ['\'']) ++ quoted ++ if behind.isEmpty then [] else quoteOn fuel behind

/-- **A text as it could stand in a script.** -/
def quote (text : String) : String := String.ofList (quoteOn (text.length + 1) text.toList)

/-- The names and values of variables in the order of the names. -/
def sorted (vars : List (String × Variable)) : List (String × Variable) :=
  vars.mergeSort fun a b => a.1 ≤ b.1

/-- Show variables, each with a word before it. -/
def showAll (before : String) (vars : List (String × Variable)) : Scene Unit :=
  (sorted vars).forM fun (name, v) =>
    match v.value with
    | some value => Scene.print (before ++ name ++ "=" ++ quote value ++ "\n")
    | none => if before.isEmpty then pure () else Scene.print (before ++ name ++ "\n")

end Builtin

end NestedSession.Rehearsal
