import DataCatalog.Text.Case
import DataCatalog.Text.PrintableTable

/-!
# Quoted text

A quoted text stands between double quotes and shows every character: quotes, backslashes and the
usual controls by a two-character escape, whatever has no glyph of its own by its code point.
The same form serves values, positions of files and texts inside rendered lists.
-/

set_option autoImplicit false

namespace DataCatalog.Text

/-- A code point in braces, in lower-case hexadecimal digits. -/
def codePointEscape (c : Char) : List Char :=
  '\\' :: 'u' :: '{' :: Nat.toDigits 16 c.toNat ++ ['}']

/-- Whether a character shows itself. -/
def isPrintable (c : Char) : Bool :=
  if c.toNat < 0x80 then 0x20 ≤ c.toNat && c.toNat < 0x7f
  else !inRanges unprintableRanges c.toNat && !inRanges extendingRanges c.toNat

/-- One character of a quoted text; an apostrophe is escaped on demand. -/
def quotedChar (escapeApostrophe : Bool) (c : Char) : List Char :=
  if c = '"' then ['\\', '"']
  else if c = '\\' then ['\\', '\\']
  else if c = '\n' then ['\\', 'n']
  else if c = '\r' then ['\\', 'r']
  else if c = '\t' then ['\\', 't']
  else if c.toNat = 0 then ['\\', '0']
  else if c = '\'' && escapeApostrophe then ['\\', '\'']
  else if isPrintable c then [c]
  else codePointEscape c

/-- A text between double quotes, with escapes. -/
def quoted (s : String) : String :=
  String.ofList ('"' :: s.toList.flatMap (quotedChar false) ++ ['"'])

end DataCatalog.Text
