import DataCatalog.Yaml.Cursor

/-!
# The text of scalars

A scalar is written plain, between quotes, or as an indented block.  In plain and quoted scalars a
single line end folds to a space, further ones are kept; in a quoted scalar a backslash begins an
escape.  A literal block keeps its lines, a folded one joins lines that begin with no blank.

Every reader gives `none` where the text breaks a rule.
-/

set_option autoImplicit false

namespace DataCatalog.Yaml

/-! ## Gaps between words -/

/-- Blanks and line ends between two words of a scalar. -/
structure Gap where
  blanks : List Char
  firstBreak : List Char
  laterBreaks : List Char
  broken : Bool

def Gap.empty : Gap := ⟨[], [], [], false⟩

/-- What a gap contributes to the text. -/
def Gap.text (g : Gap) : List Char :=
  if g.broken then
    if g.firstBreak = ['\n'] then
      -- one line feed folds to a space, and any further ones stand for themselves
      if g.laterBreaks.isEmpty then [' '] else g.laterBreaks
    else g.firstBreak ++ g.laterBreaks
  else g.blanks

/-- Passes blanks and line ends.  A tab left of the least column after a line end is refused;
`fuel` bounds the characters passed. -/
def scanGap (least : Int) : Nat → Gap → Cursor → Option (Gap × Cursor)
  | 0, g, c => some (g, c)
  | fuel + 1, g, c =>
      match c.peek with
      | some d =>
          if isSpaceOrTab d then
            if g.broken && (c.column : Int) < least && d == '\t' then none
            else if g.broken then scanGap least fuel g (c.skip 1)
            else scanGap least fuel { g with blanks := g.blanks ++ [d] } (c.skip 1)
          else if isBreak d then
            let (text, after) := c.readLine
            if g.broken then
              scanGap least fuel { g with laterBreaks := g.laterBreaks ++ text } after
            -- blanks before a line end do not count
            else scanGap least fuel ⟨[], text, g.laterBreaks, true⟩ after
          else some (g, c)
      | none => some (g, c)

/-! ## Plain scalars -/

def isFlowIndicator (c : Char) : Bool :=
  c == ',' || c == '[' || c == ']' || c == '{' || c == '}'

/-- How many characters of a word of a plain scalar are next, or `none` for a colon that may not
stand there. -/
def plainWord (flow : Bool) (count : Nat) : List Char → Option Nat
  | [] => some count
  | d :: rest =>
      let next := rest.head?
      if isGapChar d then some count
      else if flow && d == ':' && next.any (fun e => isFlowIndicator e || e == '?') then none
      else if (d == ':' && endsWord next) || (flow && isFlowIndicator d) then some count
      else plainWord flow (count + 1) rest

/-- The words of a plain scalar; gives the text, whether a line end follows it, and the rest. -/
def plainWords (flow : Bool) (least : Int) :
    Nat → List Char → Gap → Cursor → Option (List Char × Bool × Cursor)
  | 0, text, g, c => some (text, g.broken, c)
  | fuel + 1, text, g, c =>
      if c.atDocumentMarker || c.sees '#' then some (text, g.broken, c)
      else
        match plainWord flow 0 c.rest with
        | none => none
        | some n =>
            let word := c.rest.take n
            let (text, g) := if n = 0 then (text, g) else (text ++ g.text ++ word, Gap.empty)
            let c := c.skip n
            if c.peek.any isGapChar then
              match scanGap least (c.rest.length + 1) g c with
              | none => none
              | some (g, c) =>
                  if !flow && (c.column : Int) < least then some (text, g.broken, c)
                  else plainWords flow least fuel text g c
            else some (text, g.broken, c)

/-- A plain scalar inside a block of some indentation. -/
def scanPlain (flow : Bool) (indent : Int) (c : Cursor) : Option (List Char × Bool × Cursor) :=
  plainWords flow (indent + 1) (c.rest.length + 1) [] Gap.empty c

/-! ## Quoted scalars -/

def hexDigit? (c : Char) : Option Nat :=
  if '0' ≤ c && c ≤ '9' then some (c.toNat - '0'.toNat)
  else if 'a' ≤ c && c ≤ 'f' then some (c.toNat - 'a'.toNat + 10)
  else if 'A' ≤ c && c ≤ 'F' then some (c.toNat - 'A'.toNat + 10)
  else none

/-- The number of hexadecimal digits. -/
def hexNumber? : Nat → List Char → Option Nat
  | value, [] => some value
  | value, c :: rest =>
      match hexDigit? c with
      | some d => hexNumber? (value * 16 + d) rest
      | none => none

/-- What the letter after a backslash stands for: a character, or a number of hexadecimal digits
to follow. -/
def escape? (c : Char) : Option (Nat ⊕ Nat) :=
  match c with
  | '0' => some (.inl 0)
  | 'a' => some (.inl 7)
  | 'b' => some (.inl 8)
  | 't' => some (.inl 9)
  | '\t' => some (.inl 9)
  | 'n' => some (.inl 10)
  | 'v' => some (.inl 11)
  | 'f' => some (.inl 12)
  | 'r' => some (.inl 13)
  | 'e' => some (.inl 0x1b)
  | ' ' => some (.inl 0x20)
  | '"' => some (.inl 0x22)
  | '/' => some (.inl 0x2f)
  | '\\' => some (.inl 0x5c)
  | 'N' => some (.inl 0x85)
  | '_' => some (.inl 0xa0)
  | 'L' => some (.inl 0x2028)
  | 'P' => some (.inl 0x2029)
  | 'x' => some (.inr 2)
  | 'u' => some (.inr 4)
  | 'U' => some (.inr 8)
  | _ => none

/-- The character of an escape and the number of characters that spell it. -/
def escapeAt (c : Cursor) : Option (Char × Nat) :=
  match (c.peekAt 1).bind escape? with
  | some (.inl code) => some (Char.ofNat code, 2)
  | some (.inr digits) =>
      let spelled := (c.rest.drop 2).take digits
      if spelled.length = digits then
        match hexNumber? 0 spelled with
        | some code =>
            -- surrogates are no characters
            if (0xd800 ≤ code && code ≤ 0xdfff) || code > 0x10ffff then none
            else some (Char.ofNat code, 2 + digits)
        | none => none
      else none
  | none => none

/-- The characters of a word of a quoted scalar, and whether an escaped line end follows. -/
def quotedWord (single : Bool) :
    Nat → List Char → Cursor → Option (List Char × Bool × Cursor)
  | 0, text, c => some (text, false, c)
  | fuel + 1, text, c =>
      match c.peek with
      | none => some (text, false, c)
      | some d =>
          if isGapChar d then some (text, false, c)
          else if single && d == '\'' && c.peekAt 1 == some '\'' then
            -- a quote in single quotes is written twice
            quotedWord single fuel (text ++ ['\'']) (c.skip 2)
          else if d == (if single then '\'' else '"') then some (text, false, c)
          else if !single && d == '\\' && (c.peekAt 1).any isBreak then
            -- an escaped line end joins its lines
            some (text, true, (c.skip 1).readLine.2)
          else if !single && d == '\\' then
            match escapeAt c with
            | some (e, n) => quotedWord single fuel (text ++ [e]) (c.skip n)
            | none => none
          else quotedWord single fuel (text ++ [d]) (c.skip 1)

/-- The words of a quoted scalar up to its closing quote. -/
def quotedWords (single : Bool) : Nat → List Char → Cursor → Option (List Char × Cursor)
  | 0, _, _ => none
  | fuel + 1, text, c =>
      if c.atDocumentMarker || c.atEnd then none
      else
        match quotedWord single (c.rest.length + 1) text c with
        | none => none
        | some (text, escapedBreak, c) =>
            if c.sees (if single then '\'' else '"') then some (text, c.skip 1)
            else
              match scanGap 0 (c.rest.length + 1) { Gap.empty with broken := escapedBreak } c with
              | some (g, after) => quotedWords single fuel (text ++ g.text) after
              | none => none

/-- A quoted scalar, from its opening quote. -/
def scanQuoted (single : Bool) (c : Cursor) : Option (List Char × Cursor) :=
  quotedWords single (2 * c.rest.length + 2) [] (c.skip 1)

/-! ## Block scalars -/

/-- What becomes of the line ends after the last line of a block. -/
inductive Chomping where
  | clip
  | strip
  | keep
  deriving DecidableEq

def chomping? (c : Char) : Option Chomping :=
  if c = '+' then some .keep else if c = '-' then some .strip else none

/-- The digit of an indentation; zero is refused. -/
def indentDigit? (c : Char) : Option Nat :=
  if '1' ≤ c && c ≤ '9' then some (c.toNat - '0'.toNat) else none

/-- The header of a block after its indicator: chomping and indentation in either order. -/
def blockHeader (c : Cursor) : Option (Chomping × Nat × Cursor) :=
  match c.peek.bind chomping? with
  | some chomping =>
      let c := c.skip 1
      if c.sees '0' then none
      else
        match c.peek.bind indentDigit? with
        | some n => some (chomping, n, c.skip 1)
        | none => some (chomping, 0, c)
  | none =>
      if c.sees '0' then none
      else
        match c.peek.bind indentDigit? with
        | some n =>
            let c := c.skip 1
            match c.peek.bind chomping? with
            | some chomping => some (chomping, n, c.skip 1)
            | none => some (.clip, n, c)
        | none => some (.clip, 0, c)

/-- Passes empty lines and the indentation of the next line; gives the line ends and the deepest
column reached.  An indentation of zero is not known yet. -/
def blockBreaks (indent : Nat) :
    Nat → List Char → Nat → Cursor → Option (List Char × Nat × Cursor)
  | 0, breaks, deepest, c => some (breaks, deepest, c)
  | fuel + 1, breaks, deepest, c =>
      let spaces := (c.rest.takeWhile (· == ' ')).length
      let c := c.skip (if indent = 0 then spaces else min spaces (indent - c.column))
      let deepest := max deepest c.column
      if (indent = 0 || c.column < indent) && c.sees '\t' then none
      else if c.peek.any isBreak then
        let (text, after) := c.readLine
        blockBreaks indent fuel (breaks ++ text) deepest after
      else some (breaks, deepest, c)

/-- The state of a block between two lines. -/
structure BlockLines where
  text : List Char
  firstBreak : List Char
  laterBreaks : List Char
  afterBlank : Bool

/-- The lines of a block of a known indentation. -/
def blockLines (literal : Bool) (indent : Nat) :
    Nat → BlockLines → Cursor → Option (BlockLines × Cursor)
  | 0, b, c => some (b, c)
  | fuel + 1, b, c =>
      if c.column == indent && !c.atEnd then
        let beginsBlank := c.peek.any isSpaceOrTab
        let joint :=
          -- a folded line end is a space between two lines that both begin with no blank
          if !literal && b.firstBreak == ['\n'] && !b.afterBlank && !beginsBlank then
            if b.laterBreaks.isEmpty then [' '] else []
          else b.firstBreak
        let line := c.rest.takeWhile (!isBreak ·)
        let (lineEnd, after) := (c.skip line.length).readLine
        match blockBreaks indent (after.rest.length + 1) [] 0 after with
        | none => none
        | some (breaks, _, next) =>
            let text := b.text ++ joint ++ b.laterBreaks ++ line
            blockLines literal indent fuel ⟨text, lineEnd, breaks, beginsBlank⟩ next
      else some (b, c)

/-- A block scalar, from its indicator, inside a block of some indentation. -/
def scanBlock (literal : Bool) (outer : Int) (c : Cursor) : Option (List Char × Cursor) :=
  match blockHeader (c.skip 1) with
  | none => none
  | some (chomping, increment, c) =>
      let c := c.skipWhile isSpaceOrTab
      let c := if c.sees '#' then c.skipWhile (!isBreak ·) else c
      if !endsLine c.peek then none
      else
        let c := c.readLine.2
        let given : Nat :=
          if increment = 0 then 0
          else if outer ≥ 0 then outer.toNat + increment else increment
        match blockBreaks given (c.rest.length + 1) [] 0 c with
        | none => none
        | some (breaks, deepest, c) =>
            -- where the header gives no indentation, the first lines do
            let indent :=
              if given ≠ 0 then given else max (max deepest (outer + 1).toNat) 1
            match blockLines literal indent (c.rest.length + 1) ⟨[], [], breaks, false⟩ c with
            | none => none
            | some (b, c) =>
                let tail :=
                  match chomping with
                  | .strip => []
                  | .clip => b.firstBreak
                  | .keep => b.firstBreak ++ b.laterBreaks
                some (b.text ++ tail, c)

end DataCatalog.Yaml
