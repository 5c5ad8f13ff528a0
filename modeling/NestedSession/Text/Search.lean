/-!
# Text/Search — a marker in a text, and the lines that hold it

A marker is present in a text if it occurs as one contiguous run of characters (`occurs_iff`).
Lines end at a line feed; a carriage return right before it belongs to the line end.
-/

namespace NestedSession.Text

/-- Whether `needle` occurs in a text. -/
def occurs (needle : List Char) : List Char → Bool
  | [] => needle.isEmpty
  | c :: rest => needle.isPrefixOf (c :: rest) || occurs needle rest

/-- **Occurring is being a contiguous part.** -/
theorem occurs_iff (needle text : List Char) : occurs needle text = true ↔ needle <:+: text := by
  induction text with
  | nil => simp [occurs]
  | cons c rest ih => simp [occurs, ih, List.infix_cons_iff]

/-- Whether `needle` occurs in `text`; the empty needle occurs everywhere. -/
def contains (text needle : String) : Bool := occurs needle.toList text.toList

/-- A line without the carriage return that ends it. -/
def dropReturn (line : List Char) : List Char :=
  if line.getLast? = some '\r' then line.dropLast else line

/-- **The lines of a text.**  What follows the last line feed is a line if it is not empty, and
keeps its carriage return. -/
def lines (text : List Char) : List (List Char) :=
  let pieces := text.splitOn '\n'
  pieces.dropLast.map dropReturn ++ (pieces.getLast?.filter (!·.isEmpty)).toList

/-- The lines of `text` that hold `marker`, in order. -/
def linesWith (text marker : String) : List String :=
  ((lines text.toList).filter (occurs marker.toList)).map String.ofList

end NestedSession.Text
