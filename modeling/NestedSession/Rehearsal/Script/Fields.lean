import NestedSession.Rehearsal.Script.Pattern

/-!
# Rehearsal/Script/Fields — how a word becomes several

What was put into a word is split at separators; what stood in the word is not.  Blank separators
are taken together, and none begins a field; any other separator ends one.
-/

namespace NestedSession.Rehearsal

/-- How a part of a word is split. -/
inductive Splitting where
  | never
  /-- At separators. -/
  | always
  /-- Only between arguments. -/
  | gaps
  deriving DecidableEq, Repr

/-- A part of a word that is split in one way. -/
structure Segment where
  glyphs : List Glyph
  splitting : Splitting

/-- The glyphs of segments, which are not split. -/
def Segment.joined (segments : List Segment) : List Glyph := segments.flatMap (·.glyphs)

/-- The state of splitting a word. -/
structure Splitter where
  /-- The fields so far, the last first. -/
  fields : List (List Glyph)
  /-- The field under way, the last glyph first. -/
  field : List Glyph
  /-- Whether blank separators are passed over. -/
  passing : Bool
  /-- Whether one more separator is passed over with them. -/
  mayPass : Bool

namespace Splitter

/-- Nothing yet. -/
def start : Splitter := ⟨[], [], false, false⟩

/-- End a field. -/
def cut (s : Splitter) : Splitter := { s with fields := s.field.reverse :: s.fields, field := [] }

/-- Whether a character is a blank that may separate. -/
def isBlank (c : Char) : Bool := c = ' ' || c = '\t' || c = '\n'

/-- What a separator does; `blank` ones are taken together. -/
def meet (s : Splitter) (blank : Bool) : Splitter :=
  if s.passing then
    if blank then s
    else if s.mayPass then { s with mayPass := false }
    else { s.cut with passing := true, mayPass := false }
  else if blank && s.field.isEmpty then s
  else { s.cut with passing := true, mayPass := blank }

/-- Take one glyph. -/
def take (separators : List Char) (splitting : Splitting) (s : Splitter) (g : Glyph) : Splitter :=
  let keep : Splitter := { s with field := g :: s.field, passing := false, mayPass := false }
  match splitting, g with
  | .never, _ => keep
  | .gaps, .gap => s.cut
  | .gaps, _ => keep
  | .always, .gap => s.meet true
  | .always, .mark => keep
  | .always, .plain c | .always, .exact c =>
    if separators.contains c then s.meet (isBlank c) else keep

/-- Take one segment. -/
def takeAll (separators : List Char) (s : Splitter) (segment : Segment) : Splitter :=
  let s := { s with passing := false, mayPass := false }
  segment.glyphs.foldl (take separators segment.splitting) s

end Splitter

/-- **The fields of a word.** -/
def fieldsOf (separators : List Char) (segments : List Segment) : List (List Glyph) :=
  let s := segments.foldl (Splitter.takeAll separators) .start
  let last := (segments.filter (·.splitting != .never)).getLast?
  let s := if !s.field.isEmpty || last.any (·.splitting == .gaps) then s.cut else s
  s.fields.reverse

end NestedSession.Rehearsal
