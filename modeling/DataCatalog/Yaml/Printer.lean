import DataCatalog.Yaml.Style

/-!
# Writing YAML

A document is written in block style, two blanks deeper at every level; a sequence under a key is
not indented further.  The first entry of a collection stands on the line of the mark before it.
Empty collections are written `[]` and `{}`.  A key that is short and has one line stands before a
colon, any other key after a question mark.
-/

set_option autoImplicit false

namespace DataCatalog.Yaml

def blanks (n : Nat) : List Char := List.replicate n ' '

/-- A number in upper-case hexadecimal digits, at least so many of them. -/
def hexUpper (width n : Nat) : List Char :=
  let digits := (Nat.toDigits 16 n).map Char.toUpper
  List.replicate (width - digits.length) '0' ++ digits

/-- The letter after the backslash, for characters that have one. -/
def escapeLetter? (n : Nat) : Option Char :=
  match n with
  | 0x00 => some '0'
  | 0x07 => some 'a'
  | 0x08 => some 'b'
  | 0x09 => some 't'
  | 0x0a => some 'n'
  | 0x0b => some 'v'
  | 0x0c => some 'f'
  | 0x0d => some 'r'
  | 0x1b => some 'e'
  | 0x22 => some '"'
  | 0x5c => some '\\'
  | 0x85 => some 'N'
  | 0x2028 => some 'L'
  | 0x2029 => some 'P'
  | _ => none

/-- One character between double quotes. -/
def doubleQuotedChar (c : Char) : List Char :=
  match escapeLetter? c.toNat with
  | some letter => ['\\', letter]
  | none =>
      if Style.isWritable c then [c]
      else if c.toNat ≤ 0xff then '\\' :: 'x' :: hexUpper 2 c.toNat
      else '\\' :: 'u' :: hexUpper 4 c.toNat

/-- A text over several lines; what follows a line end is indented, except further line ends. -/
def indentedLines (indent : Nat) (writeChar : Char → List Char) (atStart : Bool) :
    List Char → List Char
  | [] => []
  | c :: rest =>
      if isBreak c then c :: indentedLines indent writeChar true rest
      else
        (if atStart then blanks indent else []) ++ writeChar c ++
          indentedLines indent writeChar false rest

/-- A text between apostrophes; an apostrophe is doubled. -/
def singleQuoted (indent : Nat) (cs : List Char) : List Char :=
  '\'' :: indentedLines indent (fun c => if c = '\'' then ['\'', '\''] else [c]) false cs ++
    (if cs.getLast?.any isBreak then blanks indent else []) ++ ['\'']

/-- The mark that tells how a literal block ends: without a line end, with one, or with more. -/
def chompingMark (cs : List Char) : List Char :=
  match cs.reverse with
  | [] => ['-']
  | [c] => if isBreak c then ['+'] else ['-']
  | c :: d :: _ => if !isBreak c then ['-'] else if isBreak d then ['+'] else []

/-- A literal block with its last line end. -/
def literalBlock (indent : Nat) (cs : List Char) : List Char :=
  let hint := if cs.head?.any (fun c => c == ' ' || isBreak c) then ['2'] else []
  '|' :: hint ++ chompingMark cs ++ '\n' :: indentedLines indent (fun c => [c]) true cs ++
    (if cs.getLast?.any isBreak then [] else ['\n'])

/-- A text in a style, up to the end of its line. -/
def textLine (indent : Nat) (s : String) : List Char :=
  match Style.ofText s with
  | .plain => s.toList ++ ['\n']
  | .single => singleQuoted indent s.toList ++ ['\n']
  | .double => '"' :: s.toList.flatMap doubleQuotedChar ++ ['"', '\n']
  | .literal => literalBlock indent s.toList

/-- Whether a character of a tag is written as it is. -/
def isTagChar (c : Char) : Bool :=
  isNameChar c || ";/?:@&=+$,.~*'()[]!".toList.contains c

/-- A character of a tag; what may not stand there is written byte for byte. -/
def tagChar (c : Char) : List Char :=
  if isTagChar c then [c]
  else (String.singleton c).toUTF8.toList.flatMap fun b => '%' :: hexUpper 2 b.toNat

def tagText (tag : String) : List Char := tag.toList.flatMap tagChar

/-- The text of a scalar other than a string. -/
def scalarText : Tree → String
  | .null => "null"
  | .bool b => if b then "true" else "false"
  | .int i => toString i
  | .float x => x.text .yaml
  | _ => ""

/-- Whether a key stands before a colon; `room` is how many bytes it may have. -/
def isSimpleKey (room : Nat) : Tree → Bool
  | .string s => !s.toList.any isBreak && s.utf8ByteSize ≤ room
  | .seq items => items.isEmpty
  | .map entries => entries.isEmpty
  | .tagged tag value => tag.utf8ByteSize ≤ room && isSimpleKey (room - tag.utf8ByteSize) value
  | _ => true

/-- The greatest size of a key before a colon. -/
def simpleKeyRoom : Nat := 128

/-- A key before a colon. -/
def simpleKey : Tree → List Char
  | .string s => (textLine 0 s).dropLast
  | .seq _ => ['[', ']']
  | .map _ => ['{', '}']
  | .tagged tag value => tagText tag ++ ' ' :: simpleKey value
  | t => (scalarText t).toList

/-- Where a node is written. -/
structure Place where
  /-- The indentation of the collection around the node. -/
  outer : Option Nat
  /-- Whether the node is a key or value of a mapping. -/
  inMapping : Bool
  /-- Whether a collection may begin on this line. -/
  onMark : Bool
  /-- Whether something stands before the node on its line. -/
  follows : Bool

namespace Place

/-- The place of a whole document. -/
def document : Place := ⟨none, false, true, false⟩

def gap (p : Place) : List Char := if p.follows then [' '] else []

/-- The place after a tag. -/
def afterTag (p : Place) : Place := { p with onMark := false, follows := true }

/-- The indentation of what is inside the node. -/
def inner (p : Place) : Nat :=
  match p.outer with
  | none => 0
  | some n => n + 2

/-- The indentation of the elements of a sequence. -/
def sequenceIndent (p : Place) : Nat :=
  if p.inMapping && !p.onMark then p.outer.getD 0 else p.inner

/-- The indentation of the lines of a text. -/
def textIndent (p : Place) : Nat := p.outer.getD 0 + 2

/-- The lines of a collection, the first of them on the line of the mark where it may. -/
def layOut (p : Place) (indent : Nat) (body : List Char) : List Char :=
  if p.onMark then p.gap ++ body.drop indent else '\n' :: body

end Place

mutual

/-- A node up to the end of its last line. -/
def nodeLines (p : Place) : Tree → List Char
  | .string s => p.gap ++ textLine p.textIndent s
  | .seq [] => p.gap ++ ['[', ']', '\n']
  | .map [] => p.gap ++ ['{', '}', '\n']
  | .seq (first :: rest) =>
      p.layOut p.sequenceIndent (itemLines p.sequenceIndent (first :: rest))
  | .map (first :: rest) => p.layOut p.inner (entryLines p.inner (first :: rest))
  | .tagged tag value => p.gap ++ tagText tag ++ nodeLines p.afterTag value
  | t => p.gap ++ (scalarText t).toList ++ ['\n']

/-- The elements of a sequence. -/
def itemLines (indent : Nat) : List Tree → List Char
  | [] => []
  | t :: rest =>
      blanks indent ++ '-' :: nodeLines ⟨some indent, false, true, true⟩ t ++
        itemLines indent rest

/-- The entries of a mapping. -/
def entryLines (indent : Nat) : List (Tree × Tree) → List Char
  | [] => []
  | (k, v) :: rest =>
      (if isSimpleKey simpleKeyRoom k then
        blanks indent ++ simpleKey k ++ ':' :: nodeLines ⟨some indent, true, false, true⟩ v
      else
        blanks indent ++ '?' :: nodeLines ⟨some indent, true, true, true⟩ k ++
          blanks indent ++ ':' :: nodeLines ⟨some indent, true, true, true⟩ v) ++
        entryLines indent rest

end

/-- The text of a document. -/
def write (t : Tree) : String :=
  String.ofList (nodeLines .document t)

end DataCatalog.Yaml
