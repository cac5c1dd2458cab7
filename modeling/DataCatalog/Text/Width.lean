import DataCatalog.Text.Case
import DataCatalog.Text.WidthTable

/-!
# Columns of a text

How many columns a text takes where every character takes none, one or two.
-/

set_option autoImplicit false

namespace DataCatalog.Text

/-- The columns of one character; control characters take none. -/
def charWidth (c : Char) : Nat :=
  if c.toNat < 0x80 then if 0x20 ≤ c.toNat && c.toNat < 0x7f then 1 else 0
  else if inRanges zeroWidthRanges c.toNat then 0
  else if inRanges wideRanges c.toNat then 2
  else 1

/-- The columns of a text. -/
def width (s : String) : Nat :=
  (s.toList.map charWidth).foldl (· + ·) 0

end DataCatalog.Text
