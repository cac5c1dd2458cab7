import DataCatalog.Yaml.Cursor
import DataCatalog.Yaml.Scalar

/-!
# How texts are written

A text is written plain where it reads back as itself, between apostrophes where it would read back
as something else, as a literal block where it has several lines, and between double quotes, with
escapes, where no other style can hold it.
-/

set_option autoImplicit false

namespace DataCatalog.Yaml

/-- The ways to write a text. -/
inductive Style where
  | plain
  | single
  | double
  | literal
  deriving DecidableEq, Repr

namespace Style

/-- Whether a character may be written as it is. -/
def isWritable (c : Char) : Bool :=
  let n := c.toNat
  n == 0xa || (0x20 ≤ n && n ≤ 0x7e) || (0xa0 ≤ n && n ≤ 0xd7ff) ||
    (0xe000 ≤ n && n ≤ 0xfffd && n != 0xfeff) || 0x10000 ≤ n

/-- Whether two neighbours in a text have two properties. -/
def hasPair (first second : Char → Bool) : List Char → Bool
  | a :: b :: rest => (first a && second b) || hasPair first second (b :: rest)
  | _ => false

def isSpace (c : Char) : Bool := c == ' '

/-- Whether a text has a line end before a space. -/
def breaksBeforeSpace (cs : List Char) : Bool := hasPair isBreak isSpace cs

/-- Whether a text cannot be written without escapes in any style. -/
def needsEscapes (cs : List Char) : Bool :=
  hasPair isSpace isBreak cs || !cs.all isWritable

/-- Whether a text begins like a document marker. -/
def beginsLikeMarker (cs : List Char) : Bool :=
  ['-', '-', '-'].isPrefixOf cs || ['.', '.', '.'].isPrefixOf cs

/-- Whether the first character of a text has a meaning of its own there. -/
def beginsWithIndicator : List Char → Bool
  | [] => false
  | c :: rest =>
      "#,[]\x7b\x7d&*!|>'\"%@`".toList.contains c ||
        ((c == '?' || c == ':' || c == '-') && endsWord rest.head?)

/-- Whether a later character of a text has a meaning of its own: a colon at the end of a word or a
number sign at the beginning of one. -/
def hasIndicator : List Char → Bool
  | a :: b :: rest =>
      (b == ':' && endsWord rest.head?) || (b == '#' && isGapChar a) || hasIndicator (b :: rest)
  | _ => false

/-- Whether a text may stand plain. -/
def plainAllowed (cs : List Char) : Bool :=
  !(beginsLikeMarker cs || beginsWithIndicator cs || hasIndicator cs || cs.any isBreak ||
    cs.head?.all isSpace || cs.getLast?.all isSpace || needsEscapes cs)

/-- Whether a text may stand between apostrophes. -/
def singleAllowed (cs : List Char) : Bool :=
  !(breaksBeforeSpace cs || needsEscapes cs)

/-- Whether a text may stand in a literal block. -/
def literalAllowed (cs : List Char) : Bool :=
  !(cs.getLast?.all isSpace || needsEscapes cs)

/-- Whether a plain scalar is read as this text. -/
def readsAsText (s : String) : Bool :=
  match Scalar.ofPlain s with
  | .text => !Scalar.isPaddedNumber s.toList
  | _ => false

/-- The style of a text. -/
def ofText (s : String) : Style :=
  let cs := s.toList
  if cs.contains '\n' then
    if literalAllowed cs then .literal else .double
  else if readsAsText s && plainAllowed cs then .plain
  else if singleAllowed cs then .single
  else .double

end Style

end DataCatalog.Yaml
