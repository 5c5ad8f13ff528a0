import NestedSession.Rehearsal.Program.Many
import NestedSession.Rehearsal.Program.Trees.Listing

/-!
# Rehearsal/Program/Trees/Walking — a program that walks through directories

    find

What is found on the way is put to a condition, whose parts may also do something: show the file,
run a program for it, or remove it.  If no part does anything, the files that fulfil the condition
are shown.
-/

namespace NestedSession.Rehearsal.Program

/-- A condition on files, some parts of which do something. -/
inductive Condition where
  | test (holds : Files → Place → Found → Nat → Bool)
  | negation (c : Condition)
  | both (a b : Condition)
  | either (a b : Condition)
  | print (ending : String)
  | form (format : String)
  | list
  | run (words : List String)
  /-- Run a program for all files at once, at the end. -/
  | runOnce (words : List String)
  | remove
  | prune
  | quit

namespace Condition

/-- Whether some part does something. -/
def acts : Condition → Bool
  | test _ | prune => false
  | negation c => c.acts
  | both a b | either a b => a.acts || b.acts
  | _ => true

/-- Whether some part removes files. -/
def removes : Condition → Bool
  | remove => true
  | negation c => c.removes
  | both a b | either a b => a.removes || b.removes
  | _ => false

end Condition

/-- How directories are walked through. -/
structure Walk where
  least : Nat
  most : Option Nat
  /-- What a directory holds comes before it. -/
  depthFirst : Bool
  follows : Bool

/-- How far a walk has come. -/
structure Tour where
  /-- Whether the directory at hand is not entered. -/
  pruned : Bool
  /-- Files that programs are run for at the end, the latest first. -/
  kept : List String
  isOver : Bool

/-- A step of a walk. -/
abbrev Walking (α : Type) : Type := StateT Tour Work α

/-! ## Reading conditions -/

/-- A step of reading conditions: the words that are left, and how directories are walked
through. -/
abbrev ReadCondition (α : Type) : Type := StateT (List String × Walk) (Except String) α

namespace ReadCondition

/-- The kinds of files by their letters. -/
def isOfKind (letter : Char) (f : Found) : Bool :=
  match f.node.content with
  | .plain _ => letter = 'f'
  | .directory => letter = 'd'
  | .link _ => letter = 'l'
  | .device _ => letter = 'c'

/-- The value of a part. -/
def value (name : String) : ReadCondition String := do
  match (← get).1 with
  | w :: rest =>
    modify fun (_, walk) => (rest, walk)
    pure w
  | [] => throw ("missing argument to `" ++ name ++ "'")

/-- A number that may be a lower or an upper bound. -/
def bound? (cs : List Char) : Option (Nat → Bool) :=
  let number (ds : List Char) : Option Nat :=
    if !ds.isEmpty && ds.all Char.isDigit then some (Number.digits 10 ds).1 else none
  match cs with
  | '+' :: ds => (number ds).map fun n => fun x => n < x
  | '-' :: ds => (number ds).map fun n => fun x => x < n
  | ds => (number ds).map fun n => fun x => x = n

/-- A bound on sizes with a unit. -/
def sizeBound? (word : String) : Option (Nat → Bool) :=
  let cs := word.toList
  let units : List (Char × Nat) :=
    [('c', 1), ('w', 2), ('b', 512), ('k', 1024), ('M', 1048576), ('G', 1073741824)]
  match cs.getLast?.bind fun c => units.lookup c with
  | some unit => (bound? cs.dropLast).map fun f => fun n => f ((n + unit - 1) / unit)
  | none => (bound? cs).map fun f => fun n => f ((n + 511) / 512)

/-- The words of a program up to the sign that ends them, and whether it is for all files. -/
def programOn : List String → List String → Option (List String × Bool × List String)
  | [], _ => none
  | ";" :: rest, got => some (got.reverse, false, rest)
  | "+" :: rest, "\x7b\x7d" :: got => some (got.reverse, true, rest)
  | w :: rest, got => programOn rest (w :: got)

/-- Whether a name fits a pattern. -/
def fits (loose : Bool) (pattern name : String) : Bool :=
  let settle (t : String) : String := if loose then t.map Char.toLower else t
  (Pattern.ofText (settle pattern)).fits (settle name).toList

/-- A part of a condition, given by its word. -/
def part (name : String) : ReadCondition Condition := do
  let about (f : Found → Bool) : ReadCondition Condition := pure (.test fun _ _ x _ => f x)
  let always : ReadCondition Condition := about fun _ => true
  let walkAs (f : Walk → Walk) : ReadCondition Condition := do
    modify fun (words, walk) => (words, f walk)
    always
  let count : ReadCondition Nat := do
    let word ← value name
    match word.toNat? with
    | some n => pure n
    | none => throw ("Expected a positive decimal integer argument to " ++ name ++ ", but got "
        ++ quoted word)
  match name with
  | "-name" | "-iname" =>
    let pattern ← value name
    about fun x => fits (name = "-iname") pattern (lastPart x.path)
  | "-path" | "-wholename" | "-ipath" =>
    let pattern ← value name
    about fun x => fits (name = "-ipath") pattern x.path
  | "-type" | "-xtype" =>
    let word ← value name
    let letters := (word.toList.splitOn ',').flatten
    match letters.find? fun c => !"bcdpflsD".toList.contains c with
    | some _ => throw ("Unknown argument to " ++ name ++ ": " ++ word)
    | none => about fun x => letters.any fun c => isOfKind c x
  | "-empty" => pure (.test fun files _ x _ =>
      if x.isDirectory then (files.namesAt x.place).isEmpty
      else x.node.content == .plain [])
  | "-size" =>
    let word ← value name
    match sizeBound? word with
    | some f => about fun x => f x.node.size
    | none => throw ("Invalid argument `" ++ word ++ "' to -size")
  | "-links" =>
    let word ← value name
    match bound? word.toList with
    | some f => pure (.test fun files _ x _ => f (linksOf files x))
    | none => throw ("Invalid argument `" ++ word ++ "' to -links")
  | "-perm" =>
    let word ← value name
    let (sign, text) := match word.toList with
      | '-' :: cs => ('-', String.ofList cs)
      | '/' :: cs => ('/', String.ofList cs)
      | cs => ('=', String.ofList cs)
    match Rights.changed 0 false 0 text with
    | none => throw ("invalid mode " ++ quoted word)
    | some mode => about fun x =>
      if sign = '-' then x.node.mode &&& mode = mode
      else if sign = '/' then mode = 0 || x.node.mode &&& mode != 0
      else x.node.mode = mode
  | "-newer" =>
    let path ← value name
    pure (.test fun files cwd x _ =>
      match Found.of? files cwd path true with
      | .ok f => f.node.changed < x.node.changed
      | .error _ => false)
  | "-executable" => about fun x => x.node.runs
  | "-readable" | "-writable" | "-true" => always
  | "-false" => about fun _ => false
  | "-user" | "-group" =>
    let word ← value name
    about fun _ => word = "root" || word = "0"
  | "-mtime" | "-mmin" | "-atime" | "-ctime" | "-amin" | "-cmin" =>
    let word ← value name
    match bound? word.toList with
    | some f => about fun _ => f 0
    | none => throw ("invalid argument `" ++ word ++ "' to `" ++ name ++ "'")
  | "-maxdepth" =>
    let n ← count
    walkAs fun w => { w with most := some n }
  | "-mindepth" =>
    let n ← count
    walkAs fun w => { w with least := n }
  | "-depth" | "-d" => walkAs fun w => { w with depthFirst := true }
  | "-follow" => walkAs fun w => { w with follows := true }
  | "-mount" | "-xdev" | "-noleaf" | "-daystart" | "-warn" | "-nowarn" => always
  | "-prune" => pure .prune
  | "-print" => pure (.print "\n")
  | "-print0" => pure (.print "\x00")
  | "-printf" => do pure (.form (← value name))
  | "-ls" => pure .list
  | "-quit" => pure .quit
  | "-delete" =>
    modify fun (words, walk) => (words, { walk with depthFirst := true })
    pure .remove
  | "-exec" | "-execdir" | "-ok" =>
    match programOn (← get).1 [] with
    | none => throw ("missing argument to `" ++ name ++ "'")
    | some (words, all, rest) =>
      modify fun (_, walk) => (rest, walk)
      pure (if all then .runOnce words else .run words)
  | _ => throw ("unknown predicate `" ++ name ++ "'")

/-- What is said of a parenthesis that is not closed. -/
def unclosed : String :=
  "invalid expression; I was expecting to find a ')' somewhere but did not see one."

mutual

/-- Conditions of which one has to hold. -/
def either : Nat → ReadCondition Condition
  | 0 => throw "expression too long"
  | fuel + 1 => do
    let a ← both fuel
    match (← get).1 with
    | w :: rest =>
      if w = "-o" || w = "-or" then
        modify fun (_, walk) => (rest, walk)
        pure (.either a (← either fuel))
      else pure a
    | [] => pure a

/-- Conditions of which all have to hold. -/
def both : Nat → ReadCondition Condition
  | 0 => throw "expression too long"
  | fuel + 1 => do
    let a ← single fuel
    match (← get).1 with
    | [] | "-o" :: _ | "-or" :: _ | ")" :: _ => pure a
    | w :: rest =>
      if w = "-a" || w = "-and" then modify fun (_, walk) => (rest, walk)
      pure (.both a (← both fuel))

/-- One condition. -/
def single : Nat → ReadCondition Condition
  | 0 => throw "expression too long"
  | fuel + 1 => do
    match (← get).1 with
    | [] => throw "invalid expression; expected to find an operand"
    | w :: rest =>
      modify fun (_, walk) => (rest, walk)
      if w = "!" || w = "-not" then do pure (.negation (← single fuel))
      else if w = "(" then
        let c ← either fuel
        match (← get).1 with
        | ")" :: rest =>
          modify fun (_, walk) => (rest, walk)
          pure c
        | _ => throw unclosed
      else part w

end

end ReadCondition

/-! ## Walking -/

namespace Walking

/-- Let the program do something. -/
def ask {α : Type} (work : Work α) : Walking α := StateT.lift work

/-- What a letter of a form says about a file on the way. -/
def formPart (files : Files) (f : Found) (depth : Nat) (c : Char) : String :=
  match c with
  | 'p' => f.path
  | 'f' => lastPart f.path
  | 'h' => leadingPart f.path
  | 'P' => f.path
  | 'd' => toString depth
  | 'y' => String.singleton (if f.isDirectory then 'd' else if f.node.isLink then 'l' else 'f')
  | 's' => toString f.node.size
  | 'm' => Rights.octal 1 f.node.mode
  | 'M' => rightsText f.node
  | 'l' =>
    match f.node.content with
    | .link target => Latin.text target
    | _ => ""
  | 'u' | 'g' => "root"
  | 'U' | 'G' => "0"
  | 'n' => toString (linksOf files f)
  | 'i' => toString (f.number + 2)
  | '%' => "%"
  | _ => "%" ++ String.singleton c

/-- Fill in a form about a file on the way. -/
def filled (files : Files) (f : Found) (depth : Nat) : Nat → List Char → List Char
  | 0, cs => cs
  | _, [] => []
  | fuel + 1, '%' :: c :: rest =>
    (formPart files f depth c).toList ++ filled files f depth fuel rest
  | fuel + 1, '\\' :: rest =>
    let (c, rest) := Printing.escape rest
    c :: filled files f depth fuel rest
  | fuel + 1, c :: rest => c :: filled files f depth fuel rest

/-- **Put a file to a condition**, and do what the parts do. -/
def holds (co : Company) (f : Found) (depth : Nat) : Condition → Walking Bool
  | .test t => ask (Work.view fun files cwd => t files cwd f depth)
  | .negation c => do pure (!(← holds co f depth c))
  | .both a b => do
    if ← holds co f depth a then
      if (← get).isOver then pure true else holds co f depth b
    else pure false
  | .either a b => do
    if ← holds co f depth a then pure true
    else if (← get).isOver then pure false else holds co f depth b
  | .print ending => do
    ask (Work.print (f.path ++ ending))
    pure true
  | .form format => do
    let t ← ask (Work.view fun files _ =>
      String.ofList (filled files f depth (format.length + 1) format.toList))
    ask (Work.print t)
    pure true
  | .list => do
    ask (Work.printLine (rightsText f.node ++ " " ++ toString f.node.size ++ " " ++ f.path))
    pure true
  | .run words => do
    let name := words.headD ""
    match ← ask (runChild co (words.map (replacedIn "\x7b\x7d" f.path)) (pure ())) with
    | .ok status => pure (status = 0)
    | .error e =>
      ask (Work.say ("find: " ++ quoted name ++ ": " ++ e.text ++ "\n"))
      pure false
  | .runOnce _ => do
    modify fun t => { t with kept := f.path :: t.kept }
    pure true
  | .remove => do
    let done ← ask <| Work.change fun files _ _ =>
      if f.isDirectory && !(files.namesAt f.place).isEmpty then .error .notEmpty
      else .ok ((), files.remove f.place)
    match done with
    | .ok () => pure true
    | .error e =>
      ask (Work.complain ("cannot delete " ++ quoted f.path ++ ": " ++ e.text))
      pure false
  | .prune => do
    modify fun t => { t with pruned := true }
    pure true
  | .quit => do
    modify fun t => { t with isOver := true }
    pure true

/-- Walk through a file and all below it. -/
def through (co : Company) (w : Walk) (c : Condition) : Nat → Nat → Found → Walking Unit
  | 0, _, _ => pure ()
  | fuel + 1, depth, f => do
    if !(← get).isOver then
      modify fun t => { t with pruned := false }
      let look : Walking Unit := do
        if w.least ≤ depth && !(← get).isOver then
          let _ ← holds co f depth c
      let below : Walking Unit := do
        if f.isDirectory && !(w.most.any (· ≤ depth)) then
          let children ← ask (Work.view fun files _ => (f.children files).map fun x =>
            if w.follows then
              match Found.of? files [] (pathOf x.place) true with
              | .ok aim => { aim with path := x.path }
              | .error _ => x
            else x)
          children.forM (through co w c fuel (depth + 1))
      if w.depthFirst then
        below
        look
      else
        look
        if !(← get).pruned then below

end Walking

/-- The programs that are run once for all files. -/
def programsAtEnd : Condition → List (List String)
  | .runOnce words => [words]
  | .negation c => programsAtEnd c
  | .both a b | .either a b => programsAtEnd a ++ programsAtEnd b
  | _ => []

/-- **Find files.** -/
def findFiles (co : Company) : Work Unit := do
  let words := (← get).call.arguments
  let ahead := words.takeWhile fun w => ["-H", "-L", "-P", "-O1", "-O2", "-O3"].contains w
  let words := words.drop ahead.length
  let begins (w : String) : Bool :=
    w = "(" || w = "!" || (w.toList.head? = some '-' && w != "-")
  let paths := words.takeWhile fun w => !begins w
  let rest := words.drop paths.length
  let walk : Walk := ⟨0, none, false, ahead.getLast? = some "-L"⟩
  let read : Except String (Condition × List String × Walk) :=
    if rest.isEmpty then .ok (.test (fun _ _ _ _ => true), [], walk)
    else ((ReadCondition.either (4 * rest.length + 4)).run (rest, walk)).map
      fun (c, words, walk) => (c, words, walk)
  match read with
  | .error why => Work.fail why
  | .ok (c, rest, walk) =>
    match rest with
    | ")" :: _ =>
      Work.fail "invalid expression; you have too many ')'"
    | w :: _ => Work.fail ("paths must precede expression: `" ++ w ++ "'")
    | [] =>
      let c := if c.acts then c else .both c (.print "\n")
      let size ← Work.view fun files _ => files.entries.length
      let paths := if paths.isEmpty then ["."] else paths
      let walkAll : Walking Unit := paths.forM fun path => do
        match ← Walking.ask (Work.find path walk.follows) with
        | .ok f => Walking.through co walk c (size + 2) 0 f
        | .error e => Walking.ask (Work.complain (quoted path ++ ": " ++ e.text))
      let (_, tour) ← walkAll.run ⟨false, [], false⟩
      (programsAtEnd c).forM fun words => do
        if !tour.kept.isEmpty then
          match ← runChild co (words ++ tour.kept.reverse) (pure ()) with
          | .ok status => if status != 0 then Work.blame 1
          | .error e =>
            Work.say ("find: " ++ quoted (words.headD "") ++ ": " ++ e.text ++ "\n")
            Work.blame 1

end NestedSession.Rehearsal.Program
