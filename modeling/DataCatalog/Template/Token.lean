import DataCatalog.Number.Numeral
import DataCatalog.Text.Blank
import DataCatalog.Text.Escape
import DataCatalog.Text.Identifier

/-!
# The pieces of a template

A template is text with tags in it: `{{ … }}` prints an expression, `{% … %}` is a statement, and
`{# … #}` is a comment.  A dash inside the marks of a tag takes the blanks away on that side of it.
Between `{% raw %}` and `{% endraw %}` everything is text.

`Piece.scan` takes a template apart into texts and tags.  A tag is a list of tokens, each with the
stretch of the template it was read from.
-/

set_option autoImplicit false

namespace DataCatalog.Template

/-- A place in a template: how many characters come before it, and its line. -/
structure Spot where
  offset : Nat
  line : Nat
  deriving DecidableEq, Repr, Inhabited

/-- The place after some characters. -/
def Spot.after (s : Spot) (passed : List Char) : Spot :=
  ⟨s.offset + passed.length, s.line + passed.count '\n'⟩

/-- A stretch of a template. -/
structure Span where
  start : Spot
  stop : Nat
  deriving DecidableEq, Repr, Inhabited

/-- What a token is. -/
inductive Lexeme where
  | name (s : String)
  | string (s : String)
  | int (n : Nat)
  | float (x : Binary64)
  | symbol (s : String)
  deriving DecidableEq, Repr

structure Token where
  lexeme : Lexeme
  span : Span
  deriving DecidableEq, Repr

namespace Lexeme

/-- The rest of a string up to its closing quote, and what follows the quote. -/
def stringRest (quote : Char) (acc : List Char) : List Char → Option (List Char × List Char)
  | [] => none
  | '\\' :: 'u' :: a :: b :: c :: d :: '\\' :: 'u' :: e :: f :: g :: h :: rest =>
      match Text.hexFour? a b c d with
      | none => none
      | some n =>
          if Text.isSurrogate n then
            match (Text.hexFour? e f g h).bind (Text.surrogatePair? n) with
            | some char => stringRest quote (char :: acc) rest
            | none => none
          else stringRest quote (Char.ofNat n :: acc) ('\\' :: 'u' :: e :: f :: g :: h :: rest)
  | '\\' :: 'u' :: a :: b :: c :: d :: rest =>
      match Text.hexFour? a b c d with
      | none => none
      | some n =>
          if Text.isSurrogate n then none
          else stringRest quote (Char.ofNat n :: acc) rest
  | '\\' :: c :: rest =>
      match if c = '\'' then some c else Text.letterEscape? c with
      | some e => stringRest quote (e :: acc) rest
      | none => none
  | c :: rest =>
      if c = quote then some (acc.reverse, rest)
      else if c = '\\' then none
      else stringRest quote (c :: acc) rest

/-- How far the reading of a number has come. -/
inductive NumeralPart where
  | whole
  | fraction
  | exponentSign
  | exponent
  deriving DecidableEq

/-- The part that a character of a number leads to. -/
def NumeralPart.next? (part : NumeralPart) (c : Char) : Option NumeralPart :=
  if Numeral.isDigit c then some (if part = .exponentSign then .exponent else part)
  else if c = '_' then some part
  else if c = '.' && part = .whole then some .fraction
  else if (c = 'e' || c = 'E') && (part = .whole || part = .fraction) then some .exponentSign
  else if (c = '+' || c = '-') && part = .exponentSign then some .exponent
  else none

/-- The characters of a number, the part they end in, and what follows. -/
def numeral (part : NumeralPart) : List Char → List Char × NumeralPart × List Char
  | [] => ([], part, [])
  | c :: rest =>
      match part.next? c with
      | none => ([], part, c :: rest)
      | some further =>
          let (cs, last, left) := numeral further rest
          (c :: cs, last, left)

/-- The base that a number's first two characters name. -/
def radix? : List Char → Option (Nat × List Char)
  | '0' :: c :: rest =>
      if c = 'x' || c = 'X' then some (16, rest)
      else if c = 'o' || c = 'O' then some (8, rest)
      else if c = 'b' || c = 'B' then some (2, rest)
      else none
  | _ => none

/-- A natural number of at most 128 bits, underscores left out. -/
def natural? (base : Nat) (cs : List Char) : Option Lexeme :=
  if cs.getLast? = some '_' then none
  else ((Numeral.digits? base (cs.filter (· ≠ '_'))).filter (· < Nat.pow 2 128)).map .int

/-- A number; one after a dot is an index. -/
def number? (afterDot : Bool) (cs : List Char) : Option (Lexeme × List Char) :=
  if afterDot then
    (natural? 10 (cs.takeWhile Numeral.isDigit)).map (·, cs.dropWhile Numeral.isDigit)
  else
    match radix? cs with
    | some (base, rest) =>
        let isNumeralChar := fun c => (Text.hexValue? c).any (· < base) || c == '_'
        (natural? base (rest.takeWhile isNumeralChar)).map (·, rest.dropWhile isNumeralChar)
    | none =>
        let (numeralChars, last, rest) := numeral .whole cs
        if last = .whole then (natural? 10 numeralChars).map (·, rest)
        else
          (Numeral.decimal? (numeralChars.filter (· ≠ '_'))).map fun x => (.float x, rest)

/-- The symbols of two characters. -/
def longSymbols : List String := ["==", "!=", "<=", ">=", "//", "**"]

/-- The symbols of one character. -/
def shortSymbols : List Char := "+-*/%.,:~|=()[]\x7b\x7d<>!".toList

def symbol? : List Char → Option (Lexeme × List Char)
  | [] => none
  | [c] => if shortSymbols.contains c then some (.symbol (String.singleton c), []) else none
  | c :: d :: rest =>
      let both := String.ofList [c, d]
      if longSymbols.contains both then some (.symbol both, rest)
      else if shortSymbols.contains c then some (.symbol (String.singleton c), d :: rest)
      else none

/-- The first lexeme of a text that does not begin with a blank, and what follows it. -/
def read? (afterDot : Bool) : List Char → Option (Lexeme × List Char)
  | [] => none
  | c :: rest =>
      if Text.isLetter c then
        some (.name (String.ofList (c :: rest.takeWhile Text.isWordChar)),
          rest.dropWhile Text.isWordChar)
      else if c = '"' || c = '\'' then
        (stringRest c [] rest).map fun (cs, left) => (.string (String.ofList cs), left)
      else if Numeral.isDigit c then number? afterDot (c :: rest)
      else symbol? (c :: rest)

/-- How a lexeme changes the number of open brackets. -/
def nesting : Lexeme → Int
  | .symbol s =>
      if s == "(" || s == "[" || s == "\x7b" then 1
      else if s == ")" || s == "]" || s == "\x7d" then -1
      else 0
  | _ => 0

end Lexeme

/-- A text or a tag. -/
inductive Piece where
  | text (cs : List Char)
  /-- An expression to print; the stretch is that of the opening mark. -/
  | output (opening : Span) (tokens : List Token)
  | statement (opening : Span) (tokens : List Token)
  deriving DecidableEq, Repr

namespace Piece

/-- The blanks inside tags and beside them. -/
def isGap (c : Char) : Bool :=
  c == ' ' || c == '\t' || c == '\n' || c == '\r' || c.toNat == 12

/-- A sign inside the marks of a tag, and whether it takes blanks away. -/
def takeSign : List Char → Bool × List Char
  | '-' :: rest => (true, rest)
  | '+' :: rest => (false, rest)
  | cs => (false, cs)

/-- The end of a tag: whether it takes blanks away, and what follows it. -/
def closing? (mark cs : List Char) : Option (Bool × List Char) :=
  let (trims, rest) := takeSign cs
  (Text.after? mark rest).map (trims, ·)

/-- The characters that were read on the way from one rest of a text to another. -/
def passed (cs rest : List Char) : List Char :=
  cs.take (cs.length - rest.length)

/-- A tag whose end was found: its tokens, whether blanks after it go, and what follows. -/
structure TagRest where
  tokens : List Token
  trims : Bool
  spot : Spot
  rest : List Char

/-- The tokens of a tag up to its closing mark, which counts outside of brackets only. -/
def tokensFrom (mark : List Char) (fuel : Nat) (nesting : Int) (afterDot : Bool) (spot : Spot)
    (cs : List Char) : Option TagRest :=
  match fuel with
  | 0 => none
  | fuel + 1 =>
      let spot := spot.after (cs.takeWhile isGap)
      let cs := cs.dropWhile isGap
      match if nesting = 0 then closing? mark cs else none with
      | some (trims, rest) => some ⟨[], trims, spot.after (passed cs rest), rest⟩
      | none =>
          match Lexeme.read? afterDot cs with
          | none => none
          | some (lexeme, rest) =>
              let next := spot.after (passed cs rest)
              (tokensFrom mark fuel (nesting + lexeme.nesting) (lexeme = .symbol ".") next
                rest).map fun tag =>
                  { tag with tokens := ⟨lexeme, ⟨spot, next.offset⟩⟩ :: tag.tokens }

/-- A statement of one name, up to its closing mark. -/
def bareStatement? (name : String) (cs : List Char) : Option (Bool × List Char) :=
  (Text.after? name.toList (cs.dropWhile isGap)).bind fun rest =>
    closing? ['%', '}'] (rest.dropWhile isGap)

/-- The text up to the end of a raw stretch, whether blanks go before and after that end, and what
follows it. -/
def rawText : List Char → Option (List Char × Bool × Bool × List Char)
  | [] => none
  | c :: cs =>
      let found :=
        (Text.after? ['{', '%'] (c :: cs)).bind fun rest =>
          let (trims, rest) := takeSign rest
          (bareStatement? "endraw" rest).map (trims, ·)
      match found with
      | some (trimsBefore, trimsAfter, rest) => some ([], trimsBefore, trimsAfter, rest)
      | none => (rawText cs).map fun (raw, more) => (c :: raw, more)

/-- The text up to the end of a comment and what follows it. -/
def commentText : List Char → Option (List Char × List Char)
  | [] => none
  | '#' :: '}' :: rest => some ([], rest)
  | c :: rest => (commentText rest).map fun (comment, left) => (c :: comment, left)

/-- Whether a text begins with the opening mark of a tag. -/
def opensTag : List Char → Bool
  | '{' :: c :: _ => c == '{' || c == '%' || c == '#'
  | _ => false

/-- The text before the first tag, and the tag with what follows it. -/
def untilTag : List Char → List Char × List Char
  | [] => ([], [])
  | c :: rest =>
      if opensTag (c :: rest) then ([], c :: rest)
      else
        let (lead, left) := untilTag rest
        (c :: lead, left)

/-- A text without the blanks at its end. -/
def dropEnd (cs : List Char) : List Char :=
  (cs.reverse.dropWhile Text.isBlank).reverse

/-- The pieces of a text; `trims` says that blanks at its beginning go. -/
def scanFrom (fuel : Nat) (trims : Bool) (spot : Spot) (cs : List Char) : Option (List Piece) :=
  match fuel with
  | 0 => none
  | fuel + 1 =>
      let gap := if trims then cs.takeWhile isGap else []
      let spot := spot.after gap
      let (lead, left) := untilTag (cs.drop gap.length)
      let spot := spot.after lead
      match left with
      | '{' :: kind :: inside =>
          let (trimsBefore, body) := takeSign inside
          let lead := if trimsBefore then dropEnd lead else lead
          let bodySpot := spot.after (passed left body)
          let opening : Span := ⟨spot, bodySpot.offset⟩
          let later : Option (List Piece) :=
            if kind = '#' then
              match commentText body with
              | none => none
              | some (comment, rest) =>
                  let trims := (inside.take (inside.length - rest.length - 2)).getLast? = some '-'
                  scanFrom fuel trims ((bodySpot.after comment).after ['#', '}']) rest
            else if kind = '{' then
              match tokensFrom ['}', '}'] (body.length + 1) 0 false bodySpot body with
              | none => none
              | some tag =>
                  (scanFrom fuel tag.trims tag.spot tag.rest).map
                    (.output opening tag.tokens :: ·)
            else
              match bareStatement? "raw" body with
              | some (trimsRaw, rawBody) =>
                  match rawText rawBody with
                  | none => none
                  | some (raw, trimsBefore, trimsAfter, rest) =>
                      let raw := if trimsRaw then raw.dropWhile Text.isBlank else raw
                      let raw := if trimsBefore then dropEnd raw else raw
                      (scanFrom fuel trimsAfter (bodySpot.after (passed body rest)) rest).map
                        (.text raw :: ·)
              | none =>
                  match tokensFrom ['%', '}'] (body.length + 1) 0 false bodySpot body with
                  | none => none
                  | some tag =>
                      (scanFrom fuel tag.trims tag.spot tag.rest).map
                        (.statement opening tag.tokens :: ·)
          later.map (.text lead :: ·)
      | _ => some [.text lead]

/-- The pieces of a template, if every tag in it ends. -/
def scan (template : List Char) : Option (List Piece) :=
  scanFrom (template.length + 1) false ⟨0, 1⟩ template

end Piece

end DataCatalog.Template
