import DataCatalog.Document.Reading
import DataCatalog.Number.Numeral

/-!
# What plain scalars mean

A plain scalar is null, a truth value, an integer, a floating-point number or a text, in this order
of preference.  Integers may be decimal, hexadecimal, octal or binary; a number of several digits
that begins with zero is a text, and so is a number beyond every finite one.
-/

set_option autoImplicit false

namespace DataCatalog.Yaml

/-- What a plain scalar is. -/
inductive Scalar where
  | null
  | bool (b : Bool)
  | int (i : Int)
  /-- An integer beyond 64 bits but not beyond 128. -/
  | hugeInt
  | float (x : Binary64)
  | text

namespace Scalar

def isNull (s : String) : Bool :=
  s == "" || s == "~" || s == "null" || s == "Null" || s == "NULL"

def bool? (s : String) : Option Bool :=
  if s == "true" || s == "True" || s == "TRUE" then some true
  else if s == "false" || s == "False" || s == "FALSE" then some false
  else none

/-- Several digits after an optional sign, the first of them a zero. -/
def isPaddedNumber (cs : List Char) : Bool :=
  let unsigned :=
    match cs with
    | '-' :: rest => rest
    | '+' :: rest => rest
    | _ => cs
  match unsigned with
  | '0' :: d :: rest => (d :: rest).all Numeral.isDigit
  | _ => false

/-- The magnitude of an integer in one of the four notations. -/
def magnitude? (cs : List Char) : Option Nat :=
  match (Text.after? ['0', 'x'] cs).bind (Numeral.digits? 16) with
  | some n => some n
  | none =>
      match (Text.after? ['0', 'o'] cs).bind (Numeral.digits? 8) with
      | some n => some n
      | none =>
          match (Text.after? ['0', 'b'] cs).bind (Numeral.digits? 2) with
          | some n => some n
          | none => if isPaddedNumber cs then none else Numeral.digits? 10 cs

/-- An integer with its sign. -/
def integer? (cs : List Char) : Option Int :=
  match cs with
  | '-' :: rest => (magnitude? rest).map fun n => -(n : Int)
  | '+' :: rest => (magnitude? rest).map fun n => (n : Int)
  | _ => (magnitude? cs).map fun n => (n : Int)

/-- An integer by how many bits hold it; beyond 128 bits it is none. -/
def intScalar? (cs : List Char) : Option Scalar :=
  match integer? cs with
  | none => none
  | some i =>
      if -Int.pow 2 63 ≤ i && i < Int.pow 2 64 then some (.int i)
      else if -Int.pow 2 127 ≤ i && i < Int.pow 2 128 then some .hugeInt
      else none

/-- A floating-point number; infinities and NaN have words of their own. -/
def float? (cs : List Char) : Option Binary64 :=
  let unsigned :=
    match cs with
    | '+' :: rest => rest
    | _ => cs
  let word := String.ofList unsigned
  if word == ".inf" || word == ".Inf" || word == ".INF" then some (Binary64.infinity false)
  else if word == "-.inf" || word == "-.Inf" || word == "-.INF" then
    if cs == unsigned then some (Binary64.infinity true) else none
  else if word == ".nan" || word == ".NaN" || word == ".NAN" then
    if cs == unsigned then some Binary64.nan else none
  else
    match cs, unsigned with
    | '+' :: _, '+' :: _ => none
    | '+' :: _, '-' :: _ => none
    | _, _ => (Numeral.decimal? unsigned).filter (·.isFinite)

/-- What a plain scalar is. -/
def ofPlain (s : String) : Scalar :=
  if isNull s then .null
  else
    match bool? s with
    | some b => .bool b
    | none =>
        match intScalar? s.toList with
        | some i => i
        | none =>
            if isPaddedNumber s.toList then .text
            else
              match float? s.toList with
              | some x => .float x
              | none => .text

/-- A scalar as it is read; an integer beyond 64 bits has no meaning. -/
def reading (s : String) : Scalar → Reading
  | .null => .null
  | .bool b => .bool b
  | .int i => .int i
  | .hugeInt => .fault
  | .float x => .float x
  | .text => .string s

/-- The reading of a plain scalar. -/
def plainReading (s : String) : Reading :=
  (ofPlain s).reading s

/-- The reading of a scalar under one of the standard tags, which name its type. -/
def standardReading (tag s : String) (plain : Bool) : Reading :=
  if tag == "tag:yaml.org,2002:bool" then
    match bool? s with
    | some b => .bool b
    | none => .fault
  else if tag == "tag:yaml.org,2002:int" then
    match intScalar? s.toList with
    | some i => i.reading s
    | none => .fault
  else if tag == "tag:yaml.org,2002:float" then
    match float? s.toList with
    | some x => .float x
    | none => .fault
  else if tag == "tag:yaml.org,2002:null" then
    if isNull s && s != "" then .null else .fault
  else if plain && tag.toList.head? == some '!' then plainReading s
  else .string s

end Scalar

end DataCatalog.Yaml
