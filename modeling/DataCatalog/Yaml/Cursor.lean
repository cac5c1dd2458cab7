/-!
# A place in a YAML text

A cursor holds the characters that are left, with the index, line and column of the first of them.
Five characters end a line; a carriage return and a line feed together end one line.  Line ends are
read as line feeds, except the two Unicode separators, which stand for themselves.
-/

set_option autoImplicit false

namespace DataCatalog.Yaml

/-- Whether a character ends a line. -/
def isBreak (c : Char) : Bool :=
  c == '\n' || c == '\r' || c.toNat == 0x85 || c.toNat == 0x2028 || c.toNat == 0x2029

/-- Whether a character is a space or a tab. -/
def isSpaceOrTab (c : Char) : Bool := c == ' ' || c == '\t'

/-- Whether a character separates words: a space, a tab or a line end. -/
def isGapChar (c : Char) : Bool := isSpaceOrTab c || isBreak c

/-- Whether nothing or a line end follows. -/
def endsLine (c : Option Char) : Bool := c.all isBreak

/-- Whether nothing, a blank or a line end follows. -/
def endsWord (c : Option Char) : Bool := c.all isGapChar

/-- Whether a character may stand in a name: a letter, a digit, an underscore or a dash. -/
def isNameChar (c : Char) : Bool :=
  ('0' ≤ c && c ≤ '9') || ('A' ≤ c && c ≤ 'Z') || ('a' ≤ c && c ≤ 'z') || c == '_' || c == '-'

/-- Whether a character may stand in a YAML text at all. -/
def isAllowed (c : Char) : Bool :=
  let n := c.toNat
  n == 0x9 || n == 0xa || n == 0xd || (0x20 ≤ n && n ≤ 0x7e) || n == 0x85 ||
    (0xa0 ≤ n && n ≤ 0xd7ff) || (0xe000 ≤ n && n ≤ 0xfffd) || (0x10000 ≤ n && n ≤ 0x10ffff)

/-- What is left of a text, and where it begins. -/
structure Cursor where
  rest : List Char
  index : Nat
  line : Nat
  column : Nat
  deriving Inhabited

namespace Cursor

def ofText (cs : List Char) : Cursor := ⟨cs, 0, 0, 0⟩

def peek (c : Cursor) : Option Char := c.rest.head?

def peekAt (c : Cursor) (n : Nat) : Option Char := c.rest[n]?

/-- Whether the next character is a given one. -/
def sees (c : Cursor) (char : Char) : Bool := c.peek == some char

def atEnd (c : Cursor) : Bool := c.rest.isEmpty

/-- Passes some characters, none of which ends a line. -/
def skip (c : Cursor) (n : Nat) : Cursor :=
  ⟨c.rest.drop n, c.index + n, c.line, c.column + n⟩

/-- Passes the characters with a property, none of which ends a line. -/
def skipWhile (c : Cursor) (p : Char → Bool) : Cursor :=
  c.skip (c.rest.takeWhile p).length

/-- Passes a line end, if one is next, and gives its text. -/
def readLine (c : Cursor) : List Char × Cursor :=
  match c.rest with
  | '\r' :: '\n' :: rest => (['\n'], ⟨rest, c.index + 2, c.line + 1, 0⟩)
  | d :: rest =>
      if isBreak d then
        let text := if d.toNat = 0x2028 || d.toNat = 0x2029 then [d] else ['\n']
        (text, ⟨rest, c.index + 1, c.line + 1, 0⟩)
      else ([], c)
  | [] => ([], c)

/-- Whether the line begins with one of the two document markers. -/
def atMarker (c : Cursor) (mark : Char) : Bool :=
  c.column == 0 && c.peekAt 0 == some mark && c.peekAt 1 == some mark && c.peekAt 2 == some mark &&
    endsWord (c.peekAt 3)

/-- Whether the line begins with a document marker. -/
def atDocumentMarker (c : Cursor) : Bool := c.atMarker '-' || c.atMarker '.'

end Cursor

end DataCatalog.Yaml
