import NestedSession.Rehearsal.Script.Fields
import NestedSession.Rehearsal.Script.Jobs
import NestedSession.Rehearsal.Script.Sum

/-!
# Rehearsal/Script/Expansion — how values are put into words

Values, the output of commands and the values of expressions are put into a word from left to right.
What is put in outside of quotes is split into fields later, and may be a pattern of file names.
-/

namespace NestedSession.Rehearsal

/-- Where a word stands. -/
structure Standing where
  /-- Within double quotes. -/
  quoted : Bool := false
  /-- For a value: what stands in it is split as well. -/
  standsIn : Bool := false
  /-- A tilde at its beginning is a home. -/
  tilde : Bool := false
  /-- A tilde behind `=` or `:` is a home as well. -/
  setting : Bool := false
  deriving DecidableEq, Repr

/-- A word under way. -/
structure Expanded where
  /-- The segments so far, the last first. -/
  segments : List Segment
  /-- The glyphs of the text under way, the last first. -/
  run : List Glyph
  splitting : Splitting
  inQuotes : Bool
  afterEquals : Bool

namespace Expanded

/-- Nothing yet. -/
def start : Expanded := ⟨[], [], .never, false, false⟩

/-- End the text under way. -/
def endRun (x : Expanded) : Expanded :=
  if x.run.isEmpty then x
  else { x with segments := ⟨x.run.reverse, x.splitting⟩ :: x.segments, run := [] }

/-- Add a glyph to the text. -/
def add (x : Expanded) (splitting : Splitting) (g : Glyph) : Expanded :=
  if x.splitting = splitting then { x with run := g :: x.run }
  else { x.endRun with run := [g], splitting }

/-- Add segments. -/
def append (x : Expanded) (segments : List Segment) : Expanded :=
  let x := x.endRun
  { x with segments := segments.reverse ++ x.segments }

/-- The segments of the word. -/
def finish (x : Expanded) : List Segment := x.endRun.segments.reverse

end Expanded

/-! ## Values -/

/-- What a name has. -/
inductive Worth where
  | none
  | one (text : String)
  /-- The arguments; `each` is a word of its own if quoted. -/
  | arguments (texts : List String) (each : Bool)

namespace Shell

/-- The letters of the options in the order in which they are shown. -/
def optionLetters : List Char := "ubaCEVvxsnmiIfe".toList

/-- What a name has. -/
def worth (sh : Shell) (name : String) : Worth :=
  match name with
  | "?" => .one (toString sh.status)
  | "$" => .one (toString sh.self.toNat)
  | "#" => .one (toString sh.arguments.length)
  | "!" => match sh.lastJob with
    | some pid => .one (toString pid.toNat)
    | none => .none
  | "-" => .one (String.ofList (optionLetters.filter sh.has))
  | "@" => .arguments sh.arguments true
  | "*" => .arguments sh.arguments false
  | name =>
    if name.toList.head?.any Char.isDigit then
      let n := (Number.digits 10 name.toList).1
      if n = 0 then .one sh.name
      else match sh.arguments[n - 1]? with
        | some text => .one text
        | none => .none
    else match sh.get? name with
      | some text => .one text
      | none => .none

/-- The character between arguments that are put together. -/
def joiner (sh : Shell) : Option Char :=
  match sh.vars.lookup "IFS" with
  | some ⟨some value, _, _⟩ => value.toList.head?
  | _ => some ' '

end Shell

/-- The glyphs of a text that is put in. -/
def glyphsOf (quoted : Bool) (text : String) : List Glyph :=
  text.toList.map (if quoted then Glyph.exact else Glyph.plain)

/-- The glyphs of what a name has; none if it has nothing. -/
def Worth.glyphs? (sh : Shell) (quoted : Bool) : Worth → Option (List Glyph)
  | .none => .none
  | .one text => some (glyphsOf quoted text)
  | .arguments texts each =>
    let between : List Glyph :=
      if quoted && !each then (sh.joiner.map Glyph.exact).toList else [.gap]
    some (between.intercalate (texts.map (glyphsOf quoted)))

/-- The segment of what is put in for a name. -/
def segmentOf (sh : Shell) (quoted : Bool) (name : String) (gs : List Glyph) : Segment :=
  if !quoted then ⟨gs, .always⟩
  else if name = "@" && !sh.arguments.isEmpty then ⟨gs, .gaps⟩
  else ⟨gs, .never⟩

/-- A text without the breaks at its end. -/
def withoutBreaks (cs : List Char) : List Char := (cs.reverse.dropWhile (· == '\n')).reverse

/-- **What a command writes.** -/
def outputOf (co : Company) (body : Command) : Scene (List Char) := do
  if body.isNothing then pure []
  else
    let (out, into) ← Scene.lift (Play.call fun pid m => m.makePipe pid)
    let pid ← Scene.start co do
      Scene.lift <| Play.change fun pid m =>
        let m := m.close pid out
        if into = 1 then m else ((m.copy pid into 1).2).close pid into
      co.command ⟨false, true⟩ body
    Scene.lift <| Play.change fun pid m => m.close pid into
    let written ← Scene.lift (Play.readAll out)
    Scene.lift <| Play.change fun pid m => m.close pid out
    let code ← Scene.await [pid]
    modify fun sh => { sh with outputStatus := code }
    let bs := (written.toOption).getD []
    pure (withoutBreaks ((Latin.characters bs).filter (·.toNat != 0)))

/-- The home of a user, the script's own if there is no name. -/
def homeOf (sh : Shell) (user : String) : Option String :=
  if user.isEmpty then sh.get? "HOME" else if user = "root" then some "/root" else none

/-- The name behind a tilde, and what comes after it. -/
def tildeName (setting : Bool) : Word → Option (List Char × Word)
  | [] => some ([], [])
  | .plain c :: rest =>
    if c = '/' || (setting && c = ':') then some ([], .plain c :: rest)
    else (tildeName setting rest).map fun (name, rest) => (c :: name, rest)
  | _ :: _ => none

/-- The home that a word begins with, and what comes after it. -/
def tilde? (sh : Shell) (setting : Bool) (w : Word) : Option (List Glyph × Word) :=
  match w with
  | .plain '~' :: rest =>
    match tildeName setting rest with
    | some (user, rest) =>
      (homeOf sh (String.ofList user)).map fun home => (glyphsOf true home, rest)
    | none => none
  | _ => none

/-- A name that has nothing. -/
def refuseUnset {α : Type} (name text : String) : Scene α :=
  Scene.fail (name ++ ": " ++ text)

/-- The text of a word without its marks. -/
def textOf (segments : List Segment) : String :=
  String.ofList (Glyph.text (Segment.joined segments))

/-- Glyphs with a character of zero for each gap. -/
def flatten (gs : List Glyph) : List Char := gs.filterMap fun
  | .plain c | .exact c => some c
  | .gap => some (Char.ofNat 0)
  | .mark => none

/-- Characters with a gap for each character of zero. -/
def unflatten (quoted : Bool) (cs : List Char) : List Glyph := cs.map fun c =>
  if c.toNat = 0 then .gap else if quoted then .exact c else .plain c

/-- Cut off what matches a pattern. -/
def cutOff (rule : Rule) (p : Pattern) (cs : List Char) : List Char :=
  match rule with
  | .cutLeft long => ((Pattern.beginning? p cs long).map cs.drop).getD cs
  | .cutRight long => ((Pattern.ending? p cs long).map cs.take).getD cs
  | _ => cs

/-- Put a value in, with the word behind it. -/
def expandValue (expand : Standing → Word → Scene (List Segment)) (place : Standing) (name : String)
    (rule : Rule) (orEmpty : Bool) (word : Word) : Scene (List Segment) := do
  let sh ← get
  let quoted := place.quoted
  let found := (sh.worth name).glyphs? sh quoted
  let counts (gs : List Glyph) : Bool := !(orEmpty && gs.isEmpty)
  let held := found.filter counts
  let whole (gs : List Glyph) : Scene (List Segment) := pure [segmentOf sh quoted name gs]
  let demandSet (next : List Glyph → Scene (List Segment)) : Scene (List Segment) :=
    match held with
    | some gs => next gs
    | none => if sh.has 'u' then refuseUnset name "parameter not set" else next []
  match rule with
  | .bad => Scene.fail "Bad substitution"
  | .plain => demandSet whole
  | .orWord =>
    match held with
    | some gs => whole gs
    | none => expand { place with standsIn := true, tilde := true } word
  | .thenWord =>
    match held with
    | some _ => expand { place with standsIn := true, tilde := true } word
    | none => pure []
  | .assign =>
    match held with
    | some gs => whole gs
    | none =>
      let text := textOf (← expand { tilde := true, quoted } word)
      if !Word.isName name.toList then Scene.fail (name ++ ": bad variable name")
      else
        Scene.assign name text
        whole (glyphsOf quoted text)
  | .demand =>
    match held with
    | some gs => whole gs
    | none =>
      if word.isEmpty then
        refuseUnset name (if orEmpty then "parameter not set or null" else "parameter not set")
      else
        let text := textOf (← expand { tilde := true, quoted } word)
        refuseUnset name text
  | .length =>
    demandSet fun gs =>
      pure [⟨glyphsOf quoted (toString gs.length), if quoted then .never else .always⟩]
  | .cutLeft _ | .cutRight _ =>
    demandSet fun gs => do
      let p := Pattern.ofGlyphs (Segment.joined (← expand { tilde := true } word))
      whole (unflatten quoted (cutOff rule p (flatten gs)))

/-- Put the value of an expression in. -/
def expandSum (quoted : Bool) (text : String) : Scene (List Segment) := do
  match Sum.value text (← get) with
  | .ok (n, sh) =>
    set sh
    pure [⟨glyphsOf quoted (toString n), if quoted then .never else .always⟩]
  | .error why => Scene.fail why

/-- **Put values into a word.**  The bound is on the parts of the word. -/
def expandOn (co : Company) : Nat → Standing → Expanded → Word → Scene (List Segment)
  | 0, _, x, _ => pure x.finish
  | _, _, x, [] => pure x.finish
  | fuel + 1, place, x, part :: rest => do
    let quoted := place.quoted || x.inQuotes
    let inner : Standing → Word → Scene (List Segment) := fun place w => do
      let sh ← get
      match if place.tilde then tilde? sh place.setting w else none with
      | some (home, w) =>
        expandOn co fuel place { Expanded.start with segments := [⟨home, .never⟩] } w
      | none => expandOn co fuel place .start w
    match part with
    | .plain c =>
      let splitting : Splitting :=
        if place.standsIn && !place.quoted && !x.inQuotes then .always else .never
      let isEquals := place.setting && c = '=' && !x.afterEquals
      let x := x.add splitting (.plain c)
      let x := if isEquals then { x with afterEquals := true } else x
      if place.setting && !x.inQuotes && (isEquals || (c = ':' && x.afterEquals)) then
        let sh ← get
        match tilde? sh true rest with
        | some (home, rest) => expandOn co fuel place (x.append [⟨home, .never⟩]) rest
        | none => expandOn co fuel place x rest
      else expandOn co fuel place x rest
    | .exact c => expandOn co fuel place (x.add .never (.exact c)) rest
    | .mark =>
      match x.inQuotes, rest with
      | false, .value "@" .plain false [] :: .mark :: rest =>
        let segments ← expandValue inner { place with quoted := true } "@" .plain false []
        expandOn co fuel place (x.append segments) rest
      | inQuotes, rest =>
        expandOn co fuel place { x.add .never .mark with inQuotes := !inQuotes } rest
    | .value name rule orEmpty word =>
      let here : Standing := { quoted }
      let segments ← expandValue inner here name rule orEmpty word
      expandOn co fuel place (x.append segments) rest
    | .output body =>
      let cs ← outputOf co body
      let gs := cs.map (if quoted then Glyph.exact else Glyph.plain)
      expandOn co fuel place (x.append [⟨gs, if quoted then .never else .always⟩]) rest
    | .sum expression =>
      let text := textOf (← inner { quoted := true } expression)
      let segments ← expandSum quoted text
      expandOn co fuel place (x.append segments) rest

/-- **Put values into a word.** -/
def expand (co : Company) (place : Standing) (w : Word) : Scene (List Segment) := do
  let sh ← get
  match if place.tilde then tilde? sh place.setting w else none with
  | some (home, rest) =>
    expandOn co Play.rounds place { Expanded.start with segments := [⟨home, .never⟩] } rest
  | none => expandOn co Play.rounds place .start w

/-! ## Words as fields, texts and patterns -/

/-- The names of files that a field stands for, or the field itself. -/
def filesOf (gs : List Glyph) : Scene (List String) := do
  let plain := [String.ofList (Glyph.text gs)]
  if !Pattern.mayBeOpen gs || (← get).has 'f' then pure plain
  else
    let found ← Scene.lift (Play.view fun files cwd => Pattern.paths files cwd gs)
    pure (if found.isEmpty then plain else found.map String.ofList)

/-- **The fields that a word becomes.** -/
def fieldsOfWord (co : Company) (w : Word) : Scene (List String) := do
  let segments ← expand co { tilde := true } w
  let fields := fieldsOf (← get).separators segments
  pure (← fields.mapM filesOf).flatten

/-- The fields that words become, one after the other. -/
def fieldsOfWords (co : Company) (ws : List Word) : Scene (List String) := do
  pure (← ws.mapM (fieldsOfWord co)).flatten

/-- **The text that a word becomes** where it is not split. -/
def textOfWord (co : Company) (w : Word) : Scene String := do
  pure (textOf (← expand co { tilde := true } w))

/-- The text of a word that sets a variable. -/
def textOfSetting (co : Company) (w : Word) : Scene String := do
  pure (textOf (← expand co { setting := true } w))

/-- The pattern that a word becomes. -/
def patternOfWord (co : Company) (w : Word) : Scene Pattern := do
  pure (Pattern.ofGlyphs (Segment.joined (← expand co { tilde := true } w)))

/-- The text of a document. -/
def textOfDocument (co : Company) (w : Word) : Scene String := do
  pure (textOf (← expand co { quoted := true } w))

end NestedSession.Rehearsal
