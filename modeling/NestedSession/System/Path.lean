import NestedSession.Text.Utf8

/-!
# System/Path — file names
-/

namespace NestedSession

/-- A file name: any octets, parts separated by `/`. -/
abbrev Path := Octets

namespace Path

/-- The octet between the parts of a path. -/
def separator : UInt8 := 0x2F

/-- A path that starts at the root. -/
def isAbsolute (p : Path) : Bool := p.head? == some separator

/-- **A path seen from a directory.**  An absolute path stays what it is; otherwise one separator
stands between the two, unless the directory is empty or ends in one. -/
def join (dir p : Path) : Path :=
  if isAbsolute p then p
  else if dir.isEmpty || dir.getLast? == some separator then dir ++ p
  else dir ++ separator :: p

/-- A path seen from a directory, as text. -/
def joinText (dir : Path) (p : String) : Path := join dir (Utf8.encode p)

/-- **The last part of a path**, if it names an entry: neither the directory itself nor the one
above it. -/
def fileName? (p : Path) : Option Path :=
  let parts := (p.splitOn separator).filter fun part => !part.isEmpty && part != [0x2E]
  parts.getLast?.filter (· != [0x2E, 0x2E])

/-- A path for a reader: what is no text is replaced. -/
def shown (p : Path) : String := Utf8.lossy p

theorem join_of_isAbsolute {dir p : Path} (h : isAbsolute p = true) : join dir p = p := by
  rw [join, if_pos h]

end Path

end NestedSession
