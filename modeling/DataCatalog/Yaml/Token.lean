import DataCatalog.Yaml.ScalarText

/-!
# Tokens of a YAML text

Indentation becomes explicit here: a deeper column opens a block and a lesser one closes it, by
tokens of their own.  A colon turns what stands before it on its line into a key, so the token that
marks a key is put in after the fact; `KeyCandidate` remembers where that may still happen.

`Token.scan` gives the tokens that are certain.  Where the text breaks a rule, they end before the
first token that might still have become a key, and nothing tells that the text has ended.
-/

set_option autoImplicit false

namespace DataCatalog.Yaml

/-- The tokens of a text. -/
inductive Token where
  | streamEnd
  | versionDirective (major minor : Nat)
  | tagDirective (handle start : String)
  | documentStart
  | documentEnd
  | blockSequenceStart
  | blockMappingStart
  | blockEnd
  | flowSequenceStart
  | flowSequenceEnd
  | flowMappingStart
  | flowMappingEnd
  | blockEntry
  | flowEntry
  | key
  | value
  | alias (name : String)
  | anchor (name : String)
  | tag (handle suffix : String)
  | scalar (text : String) (plain : Bool)
  deriving DecidableEq, Repr, Inhabited

/-- A token that a colon may still turn into a key, with its number and its place. -/
structure KeyCandidate where
  possible : Bool
  required : Bool
  number : Nat
  index : Nat
  line : Nat
  column : Nat
  deriving Inhabited

def KeyCandidate.absent : KeyCandidate := ⟨false, false, 0, 0, 0, 0⟩

/-- The state between two tokens. -/
structure Scanner where
  cursor : Cursor
  tokens : Array Token
  /-- The column of the innermost block, and those of the blocks around it. -/
  indent : Int
  outerIndents : List Int
  /-- Whether what comes next may be a key. -/
  keyAllowed : Bool
  /-- The candidate of the innermost collection in brackets, and those around it. -/
  candidate : KeyCandidate
  outerCandidates : List KeyCandidate
  finished : Bool
  deriving Inhabited

namespace Scanner

def ofText (cs : List Char) : Scanner :=
  ⟨Cursor.ofText cs, #[], -1, [], true, .absent, [], false⟩

/-- The number of brackets that are open. -/
def flowLevel (s : Scanner) : Nat := s.outerCandidates.length

def inFlow (s : Scanner) : Bool := s.flowLevel != 0

def emit (s : Scanner) (t : Token) : Scanner := { s with tokens := s.tokens.push t }

/-- Puts a token in before the one of a number. -/
def emitAt (s : Scanner) (number : Nat) (t : Token) : Scanner :=
  { s with tokens := (s.tokens.extract 0 number).push t ++ s.tokens.extract number s.tokens.size }

def skip (s : Scanner) (n : Nat) : Scanner := { s with cursor := s.cursor.skip n }

/-! ## Candidates for keys -/

/-- Whether a candidate is too far away: on another line, or more than 1024 characters back. -/
def isStale (c : Cursor) (k : KeyCandidate) : Bool :=
  k.possible && (k.line < c.line || k.index + 1024 < c.index)

/-- Gives up the candidates that are too far away; a key that the block needs must not be. -/
def dropStale (s : Scanner) : Option Scanner :=
  let gone (k : KeyCandidate) := isStale s.cursor k
  if (s.candidate :: s.outerCandidates).any (fun k => gone k && k.required) then none
  else
    let drop (k : KeyCandidate) := if gone k then { k with possible := false } else k
    some { s with candidate := drop s.candidate, outerCandidates := s.outerCandidates.map drop }

/-- Gives up the innermost candidate, which must not be one that the block needs. -/
def dropCandidate (s : Scanner) : Option Scanner :=
  if s.candidate.possible && s.candidate.required then none
  else some { s with candidate := { s.candidate with possible := false } }

/-- Makes the next token a candidate, where a key may stand. -/
def markCandidate (s : Scanner) : Option Scanner :=
  if s.keyAllowed then
    let c := s.cursor
    -- in the column of a block only another key can begin
    let required := !s.inFlow && s.indent == c.column
    (s.dropCandidate).map fun s =>
      { s with candidate := ⟨true, required, s.tokens.size, c.index, c.line, c.column⟩ }
  else some s

/-- The tokens before every candidate. -/
def certainTokens (s : Scanner) : List Token :=
  let pending := (s.candidate :: s.outerCandidates).filter (·.possible)
  s.tokens.toList.take (pending.foldl (fun n k => min n k.number) s.tokens.size)

/-! ## Indentation -/

/-- Opens a block at a deeper column; `number` says before which token. -/
def openBlock (s : Scanner) (column : Nat) (number : Option Nat) (t : Token) : Scanner :=
  if !s.inFlow && s.indent < column then
    let s := { s with indent := column, outerIndents := s.indent :: s.outerIndents }
    match number with
    | some n => s.emitAt n t
    | none => s.emit t
  else s

/-- Closes blocks that are deeper than a column, given the columns around them. -/
def closeFrom (column : Int) : List Int → Scanner → Scanner
  | [], s => s
  | outer :: rest, s =>
      if column < s.indent then
        closeFrom column rest { s.emit .blockEnd with indent := outer, outerIndents := rest }
      else s

/-- Closes the blocks that are deeper than a column. -/
def closeBlocks (s : Scanner) (column : Int) : Scanner :=
  if s.inFlow then s else closeFrom column s.outerIndents s

/-! ## Tokens of one or more characters -/

/-- Passes blanks, comments and line ends; `fuel` bounds the lines passed. -/
def toNextToken : Nat → Scanner → Scanner
  | 0, s => s
  | fuel + 1, s =>
      let c := s.cursor
      -- a byte order mark may begin a line
      let c := if c.column == 0 && c.peek.any (·.toNat == 0xfeff) then c.skip 1 else c
      -- a tab is no indentation, so that none may stand where a key may begin
      let tabs := s.inFlow || !s.keyAllowed
      let c := c.skipWhile fun d => d == ' ' || (tabs && d == '\t')
      let c := if c.sees '#' then c.skipWhile (!isBreak ·) else c
      if c.peek.any isBreak then
        toNextToken fuel
          { s with cursor := c.readLine.2, keyAllowed := s.keyAllowed || !s.inFlow }
      else { s with cursor := c }

/-- The end of the text closes everything. -/
def endStream (s : Scanner) : Option Scanner :=
  ((s.closeBlocks (-1)).dropCandidate).map fun s =>
    { s.emit .streamEnd with keyAllowed := false, finished := true }

/-- A document marker closes every block. -/
def documentMarker (s : Scanner) (t : Token) : Option Scanner :=
  ((s.closeBlocks (-1)).dropCandidate).map fun s =>
    { (s.emit t).skip 3 with keyAllowed := false }

def openFlow (s : Scanner) (t : Token) : Option Scanner :=
  (s.markCandidate).map fun s =>
    { (s.emit t).skip 1 with
      candidate := .absent
      outerCandidates := s.candidate :: s.outerCandidates
      keyAllowed := true }

def closeFlow (s : Scanner) (t : Token) : Option Scanner :=
  (s.dropCandidate).map fun s =>
    let (candidate, outer) :=
      match s.outerCandidates with
      | k :: rest => (k, rest)
      | [] => (s.candidate, [])
    { (s.emit t).skip 1 with
      candidate := candidate, outerCandidates := outer, keyAllowed := false }

def flowEntry (s : Scanner) : Option Scanner :=
  (s.dropCandidate).map fun s => { (s.emit .flowEntry).skip 1 with keyAllowed := true }

/-- A dash opens a block sequence where an entry may stand. -/
def blockEntry (s : Scanner) : Option Scanner :=
  if !s.inFlow && !s.keyAllowed then none
  else
    ((s.openBlock s.cursor.column none .blockSequenceStart).dropCandidate).map fun s =>
      { (s.emit .blockEntry).skip 1 with keyAllowed := true }

/-- A question mark begins a key of any form. -/
def explicitKey (s : Scanner) : Option Scanner :=
  if !s.inFlow && !s.keyAllowed then none
  else
    ((s.openBlock s.cursor.column none .blockMappingStart).dropCandidate).map fun s =>
      { (s.emit .key).skip 1 with keyAllowed := !s.inFlow }

/-- A colon makes the candidate a key, or follows a key that a question mark began. -/
def valueMark (s : Scanner) : Option Scanner :=
  let k := s.candidate
  if k.possible then
    -- the block begins at the key, which is already among the tokens
    let s := (s.emitAt k.number .key).openBlock k.column (some k.number) .blockMappingStart
    some { (s.emit .value).skip 1 with
      candidate := { k with possible := false }, keyAllowed := false }
  else if !s.inFlow && !s.keyAllowed then none
  else
    let s := s.openBlock s.cursor.column none .blockMappingStart
    some { (s.emit .value).skip 1 with keyAllowed := !s.inFlow }

/-! ## Directives, anchors and tags -/

/-- A number of at most nine digits. -/
def shortNumber (c : Cursor) : Option (Nat × Cursor) :=
  let digits := c.rest.takeWhile fun d => '0' ≤ d && d ≤ '9'
  if digits.isEmpty || digits.length > 9 then none
  else some (digits.foldl (fun n d => n * 10 + (d.toNat - '0'.toNat)) 0, c.skip digits.length)

/-- Characters of a tag that need no escape; some only inside angle brackets or directives. -/
def isTagChar (anywhere : Bool) (c : Char) : Bool :=
  isNameChar c || ";/?:@&=+$.%!~*'()".toList.contains c ||
    (anywhere && (c == ',' || c == '[' || c == ']'))

/-- The octets of escapes such as `%C3%A9`. -/
def octets : List Char → Option (List UInt8)
  | [] => some []
  | '%' :: a :: b :: rest =>
      match hexDigit? a, hexDigit? b with
      | some x, some y => (octets rest).map (UInt8.ofNat (x * 16 + y) :: ·)
      | _, _ => none
  | '%' :: _ => none
  | c :: rest => (octets rest).map ((String.singleton c).toUTF8.toList ++ ·)

/-- The text of the characters of a tag, escapes read as the octets they spell. -/
def tagText (cs : List Char) : Option String :=
  (octets cs).bind fun bytes => String.fromUTF8? (ByteArray.mk bytes.toArray)

/-- The characters of a tag that follow a beginning already read; together there must be one. -/
def tagChars (anywhere : Bool) (begun : List Char) (c : Cursor) : Option (String × Cursor) :=
  let more := c.rest.takeWhile (isTagChar anywhere)
  if begun.isEmpty && more.isEmpty then none
  else (tagText (begun ++ more)).map fun text => (text, c.skip more.length)

/-- A handle of tags: an exclamation mark, a name, and another exclamation mark if it is there. -/
def tagHandle (c : Cursor) : Option (List Char × Cursor) :=
  if c.sees '!' then
    let name := ((c.skip 1).rest.takeWhile isNameChar)
    let c := c.skip (1 + name.length)
    if c.sees '!' then some ('!' :: name ++ ['!'], c.skip 1) else some ('!' :: name, c)
  else none

/-- A tag, from its exclamation mark. -/
def tagAt (c : Cursor) : Option (Token × Cursor) :=
  if c.peekAt 1 == some '<' then
    match tagChars true [] (c.skip 2) with
    | some (suffix, c) => if c.sees '>' then some (.tag "" suffix, c.skip 1) else none
    | none => none
  else
    match tagHandle c with
    | none => none
    | some (handle, c) =>
        if handle.length > 1 && handle.getLast? == some '!' then
          (tagChars false [] c).map fun (suffix, c) => (.tag (String.ofList handle) suffix, c)
        else
          -- there is no second mark: what was read belongs to the suffix of a local tag
          let begun := handle.drop 1
          let more := c.rest.takeWhile (isTagChar false)
          (tagText (begun ++ more)).map fun suffix =>
            (if suffix = "" then .tag "" "!" else .tag "!" suffix, c.skip more.length)

/-- The version after `%YAML`. -/
def versionValue (c : Cursor) : Option (Token × Cursor) :=
  match shortNumber (c.skipWhile isSpaceOrTab) with
  | some (major, c) =>
      if c.sees '.' then
        (shortNumber (c.skip 1)).map fun (minor, c) => (.versionDirective major minor, c)
      else none
  | none => none

/-- The handle and its meaning after `%TAG`. -/
def tagDirectiveValue (c : Cursor) : Option (Token × Cursor) :=
  match tagHandle (c.skipWhile isSpaceOrTab) with
  | none => none
  | some (handle, c) =>
      if handle.length > 1 && handle.getLast? != some '!' then none
      else if !c.peek.any isSpaceOrTab then none
      else
        match tagChars true [] (c.skipWhile isSpaceOrTab) with
        | some (start, c) =>
            if endsWord c.peek then some (.tagDirective (String.ofList handle) start, c) else none
        | none => none

/-- A directive, from its percent sign, with the line it stands on. -/
def directiveAt (c : Cursor) : Option (Token × Cursor) :=
  let c := c.skip 1
  let name := c.rest.takeWhile isNameChar
  let c := c.skip name.length
  if name.isEmpty || !endsWord c.peek then none
  else
    let read :=
      if name = "YAML".toList then versionValue c
      else if name = "TAG".toList then tagDirectiveValue c
      else none
    match read with
    | none => none
    | some (t, c) =>
        let c := c.skipWhile isSpaceOrTab
        let c := if c.sees '#' then c.skipWhile (!isBreak ·) else c
        if endsLine c.peek then some (t, c.readLine.2) else none

def directive (s : Scanner) : Option Scanner :=
  match (s.closeBlocks (-1)).dropCandidate with
  | none => none
  | some s =>
      (directiveAt s.cursor).map fun (t, c) => { s.emit t with cursor := c, keyAllowed := false }

/-- The name of an anchor or alias, after its mark. -/
def anchorName (c : Cursor) : Option (String × Cursor) :=
  let name := c.rest.takeWhile isNameChar
  let c := c.skip name.length
  if name.isEmpty then none
  else if endsWord c.peek || c.peek.any (fun d => "?:,]\x7d%@\u0060".toList.contains d) then
    some (String.ofList name, c)
  else none

def anchorOrAlias (s : Scanner) (make : String → Token) : Option Scanner :=
  match s.markCandidate with
  | none => none
  | some s =>
      (anchorName (s.cursor.skip 1)).map fun (name, c) =>
        { s.emit (make name) with cursor := c, keyAllowed := false }

def tagToken (s : Scanner) : Option Scanner :=
  match s.markCandidate with
  | none => none
  | some s =>
      match tagAt s.cursor with
      | none => none
      | some (t, c) =>
          if (s.inFlow && c.sees ',') || endsWord c.peek then
            some { s.emit t with cursor := c, keyAllowed := false }
          else none

/-! ## Scalars -/

def blockScalar (s : Scanner) (literal : Bool) : Option Scanner :=
  match s.dropCandidate with
  | none => none
  | some s =>
      (scanBlock literal s.indent s.cursor).map fun (text, c) =>
        { s.emit (.scalar (String.ofList text) false) with cursor := c, keyAllowed := true }

def quotedScalar (s : Scanner) (single : Bool) : Option Scanner :=
  match s.markCandidate with
  | none => none
  | some s =>
      (scanQuoted single s.cursor).map fun (text, c) =>
        { s.emit (.scalar (String.ofList text) false) with cursor := c, keyAllowed := false }

def plainScalar (s : Scanner) : Option Scanner :=
  match s.markCandidate with
  | none => none
  | some s =>
      (scanPlain s.inFlow s.indent s.cursor).map fun (text, brokenAfter, c) =>
        { s.emit (.scalar (String.ofList text) true) with cursor := c, keyAllowed := brokenAfter }

/-- Characters that begin no plain scalar, or only with a certain character after them. -/
def isIndicator (c : Char) : Bool :=
  "-?:,[]\x7b\x7d#&*!|>'\"%@\u0060".toList.contains c

/-- Whether a plain scalar begins here. -/
def beginsPlain (s : Scanner) : Bool :=
  let next := s.cursor.peekAt 1
  match s.cursor.peek with
  | none => false
  | some c =>
      (!isGapChar c && !isIndicator c) || (c == '-' && !next.any isSpaceOrTab) ||
        (!s.inFlow && (c == '?' || c == ':') && !endsWord next)

/-- The token at the cursor. -/
def token (s : Scanner) : Option Scanner :=
  let c := s.cursor
  let next := c.peekAt 1
  match c.peek with
  | none => s.endStream
  | some d =>
      if c.column == 0 && d == '%' then s.directive
      else if c.atMarker '-' then s.documentMarker .documentStart
      else if c.atMarker '.' then s.documentMarker .documentEnd
      else if d == '[' then s.openFlow .flowSequenceStart
      else if d == '{' then s.openFlow .flowMappingStart
      else if d == ']' then s.closeFlow .flowSequenceEnd
      else if d == '}' then s.closeFlow .flowMappingEnd
      else if d == ',' then s.flowEntry
      else if d == '-' && endsWord next then s.blockEntry
      else if d == '?' && (s.inFlow || endsWord next) then s.explicitKey
      else if d == ':' && (s.inFlow || endsWord next) then s.valueMark
      else if d == '*' then s.anchorOrAlias .alias
      else if d == '&' then s.anchorOrAlias .anchor
      else if d == '!' then s.tagToken
      else if d == '|' && !s.inFlow then s.blockScalar true
      else if d == '>' && !s.inFlow then s.blockScalar false
      else if d == '\'' then s.quotedScalar true
      else if d == '"' then s.quotedScalar false
      else if s.beginsPlain then s.plainScalar
      else none

/-- Passes what separates tokens, closes the blocks that end, and takes the next token. -/
def next (s : Scanner) : Option Scanner :=
  match (toNextToken (s.cursor.rest.length + 1) s).dropStale with
  | none => none
  | some s => (s.closeBlocks s.cursor.column).token

/-- Takes tokens to the end of the text; `fuel` bounds their number. -/
def run : Nat → Scanner → List Token
  | 0, s => s.tokens.toList
  | fuel + 1, s =>
      if s.finished then s.tokens.toList
      else
        match s.dropStale with
        | none => s.certainTokens
        | some s =>
            match s.next with
            | none => s.certainTokens
            | some later => run fuel later

end Scanner

/-- The certain tokens of a text; none if it holds a character that no YAML text may hold. -/
def Token.scan (cs : List Char) : List Token :=
  if cs.all isAllowed then
    let text :=
      match cs with
      | c :: rest => if c.toNat = 0xfeff then rest else cs
      | [] => []
    Scanner.run (text.length + 2) (Scanner.ofText text)
  else []

end DataCatalog.Yaml
