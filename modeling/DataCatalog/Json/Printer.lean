import DataCatalog.Json.Basic

/-!
# Writing JSON

The compact form has no blanks.  The pretty form indents by two blanks and puts every element and
entry on a line of its own; empty arrays and objects stay together.  Strings escape quotes,
backslashes and control characters and nothing else.
-/

set_option autoImplicit false

namespace DataCatalog.Json

/-- Four hexadecimal digits. -/
def hexFour (n : Nat) : List Char :=
  let digits := Nat.toDigits 16 n
  List.replicate (4 - digits.length) '0' ++ digits

/-- One character of a string. -/
def escapeChar (c : Char) : List Char :=
  if c = '"' then ['\\', '"']
  else if c = '\\' then ['\\', '\\']
  else if c.toNat = 8 then ['\\', 'b']
  else if c.toNat = 12 then ['\\', 'f']
  else if c = '\n' then ['\\', 'n']
  else if c = '\r' then ['\\', 'r']
  else if c = '\t' then ['\\', 't']
  else if c.toNat < 0x20 then '\\' :: 'u' :: hexFour c.toNat
  else [c]

/-- A string with its quotes. -/
def stringText (s : String) : String :=
  String.ofList ('"' :: s.toList.flatMap escapeChar ++ ['"'])

/-- The text of what is no array and no object. -/
def scalarText : Json → String
  | .null => "null"
  | .bool b => if b then "true" else "false"
  | .int i => toString i
  | .float x => x.text .json
  | .string s => stringText s
  | _ => ""

mutual

/-- The text without blanks. -/
def compact : Json → String
  | .array items => "[" ++ ",".intercalate (compactItems items) ++ "]"
  | .object entries => "\x7b" ++ ",".intercalate (compactEntries entries) ++ "\x7d"
  | j => scalarText j

def compactItems : List Json → List String
  | [] => []
  | j :: rest => compact j :: compactItems rest

def compactEntries : List (String × Json) → List String
  | [] => []
  | (k, j) :: rest => (stringText k ++ ":" ++ compact j) :: compactEntries rest

end

/-- A line break and the blanks of a depth. -/
def newLine (depth : Nat) : String :=
  String.ofList ('\n' :: List.replicate (2 * depth) ' ')

/-- Parts between two brackets, each on a line one step deeper. -/
def bracketed (opening closing : String) (depth : Nat) (parts : List String) : String :=
  if parts.isEmpty then opening ++ closing
  else
    opening ++ newLine (depth + 1) ++ ("," ++ newLine (depth + 1)).intercalate parts ++
      newLine depth ++ closing

mutual

/-- The indented text at a depth. -/
def prettyAt (depth : Nat) : Json → String
  | .array items => bracketed "[" "]" depth (prettyItems (depth + 1) items)
  | .object entries => bracketed "\x7b" "\x7d" depth (prettyEntries (depth + 1) entries)
  | j => scalarText j

def prettyItems (depth : Nat) : List Json → List String
  | [] => []
  | j :: rest => prettyAt depth j :: prettyItems depth rest

def prettyEntries (depth : Nat) : List (String × Json) → List String
  | [] => []
  | (k, j) :: rest => (stringText k ++ ": " ++ prettyAt depth j) :: prettyEntries depth rest

end

/-- The indented text. -/
def pretty (j : Json) : String := prettyAt 0 j

end DataCatalog.Json
