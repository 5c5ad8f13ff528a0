/-!
# Text/Blank — white space

The characters with the White_Space property.  A word is a maximal run of others (`words`).
-/

namespace NestedSession.Text

/-- **White space**: the controls U+0009 to U+000D, the spaces of every script, NEL and the two
separators. -/
def isBlank (c : Char) : Bool :=
  let n := c.toNat
  (9 ≤ n && n ≤ 13) || n == 0x20 || n == 0x85 || n == 0xA0 || n == 0x1680
    || (0x2000 ≤ n && n ≤ 0x200A) || n == 0x2028 || n == 0x2029 || n == 0x202F || n == 0x205F
    || n == 0x3000

/-- The maximal runs of characters that are not white space. -/
def words (text : String) : List String :=
  ((text.toList.splitOnP isBlank).filter (!·.isEmpty)).map String.ofList

/-- A text that holds white space only, or nothing. -/
def isBlankText (text : String) : Bool := text.toList.all isBlank

end NestedSession.Text
