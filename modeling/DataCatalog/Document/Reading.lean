import DataCatalog.Document.Tree
import DataCatalog.Value

/-!
# Reading documents as data

A `Reading` is what a reader of a text hands on, in the order of the text: a tree in which `fault`
stands where the text breaks off or says something that has no meaning.  Both uses of a document
start from it.  `Tree.ofReading` wants a whole tree in which no mapping repeats a key.
`Value.ofReading` wants plain data: integers of 64 bits, scalar keys that stay distinct as texts,
and no tags; it stops at the first thing that is wrong, in the order of the text.
-/

set_option autoImplicit false

namespace DataCatalog

/-- A document as it is read, with faults in the places where they were met. -/
inductive Reading where
  | null
  | bool (b : Bool)
  | int (i : Int)
  | float (x : Binary64)
  | string (s : String)
  | seq (items : List Reading)
  | map (entries : List (Reading × Reading))
  | tagged (tag : String) (value : Reading)
  | fault
  deriving Inhabited

/-- Why a document cannot be used. -/
inductive DecodeError where
  /-- The text does not follow its format, or holds something the use has no place for. -/
  | unreadable
  /-- An integer that does not fit in 64 bits with a sign. -/
  | integerRange (i : Int)
  /-- A key that is no scalar. -/
  | keyKind (kind : String)
  /-- Two keys with the same text. -/
  | duplicateKey (key : String)
  deriving DecidableEq, Repr

/-- The sentence for an error, where there is one. -/
def DecodeError.sentence? : DecodeError → Option String
  | .unreadable => none
  | .integerRange i => some ("integer " ++ toString i ++ " does not fit in i64")
  | .keyKind kind => some (kind ++ " cannot be used as a mapping key")
  | .duplicateKey key => some ("duplicate mapping key '" ++ key ++ "'")

/-- The text of an error of a format; the format's own words are left open. -/
def DecodeError.message (format : String) (e : DecodeError) : String :=
  match e.sentence? with
  | none => "<" ++ format ++ ">"
  | some sentence => "<" ++ format ++ ": " ++ sentence ++ ">"

/-- The 64-bit integer of a number, if it has one. -/
def int64? (i : Int) : Option Int64 :=
  if -Int.pow 2 63 ≤ i ∧ i < Int.pow 2 63 then some (Int64.ofInt i) else none

namespace Value

/-- The text of a scalar as a key. -/
def keyText : Value → Except DecodeError String
  | .string s => .ok s
  | .int i => .ok (toString i.toInt)
  | .float x => .ok (x.text .plain)
  | .bool b => .ok (if b then "true" else "false")
  | .null => .ok "null"
  | other => .error (.keyKind other.kind)

/-- Adds an entry under a key that must be new. -/
def addEntry (entries : Entries Value) (key : String) (value : Value) :
    Except DecodeError (Entries Value) :=
  if Entries.has key entries then .error (.duplicateKey key)
  else .ok (Entries.put key value entries)

mutual

/-- The plain data of a document. -/
def ofReading : Reading → Except DecodeError Value
  | .null => .ok .null
  | .bool b => .ok (.bool b)
  | .int i =>
      match int64? i with
      | some n => .ok (.int n)
      | none => .error (.integerRange i)
  | .float x => .ok (.float x)
  | .string s => .ok (.string s)
  | .seq items =>
      match ofReadings items with
      | .ok values => .ok (.list values)
      | .error e => .error e
  | .map entries =>
      match ofReadingEntries [] entries with
      | .ok added => .ok (.map added)
      | .error e => .error e
  | .tagged _ _ => .error .unreadable
  | .fault => .error .unreadable

def ofReadings : List Reading → Except DecodeError (List Value)
  | [] => .ok []
  | r :: rest =>
      match ofReading r with
      | .error e => .error e
      | .ok v =>
          match ofReadings rest with
          | .error e => .error e
          | .ok vs => .ok (v :: vs)

/-- Adds the entries one by one: the key and the value are read before the key is judged. -/
def ofReadingEntries (acc : Entries Value) :
    List (Reading × Reading) → Except DecodeError (Entries Value)
  | [] => .ok acc
  | (k, r) :: rest =>
      match ofReading k with
      | .error e => .error e
      | .ok key =>
          match ofReading r with
          | .error e => .error e
          | .ok v =>
              match keyText key with
              | .error e => .error e
              | .ok name =>
                  match addEntry acc name v with
                  | .error e => .error e
                  | .ok added => ofReadingEntries added rest

end

end Value

namespace Tree

mutual

/-- A tree read as it stands. -/
def reading : Tree → Reading
  | .null => .null
  | .bool b => .bool b
  | .int i => .int i
  | .float x => .float x
  | .string s => .string s
  | .seq items => .seq (readings items)
  | .map entries => .map (readingEntries entries)
  | .tagged tag value => .tagged tag (reading value)

def readings : List Tree → List Reading
  | [] => []
  | t :: rest => reading t :: readings rest

def readingEntries : List (Tree × Tree) → List (Reading × Reading)
  | [] => []
  | (k, v) :: rest => (reading k, reading v) :: readingEntries rest

end

mutual

/-- The tree of a reading without faults in which no mapping repeats a key. -/
def ofReading : Reading → Except DecodeError Tree
  | .null => .ok .null
  | .bool b => .ok (.bool b)
  | .int i => .ok (.int i)
  | .float x => .ok (.float x)
  | .string s => .ok (.string s)
  | .seq items => (ofReadings items).map .seq
  | .map entries => (ofReadingEntries [] entries).map .map
  | .tagged tag value => (ofReading value).map (.tagged tag)
  | .fault => .error .unreadable

def ofReadings : List Reading → Except DecodeError (List Tree)
  | [] => .ok []
  | r :: rest => do
      let t ← ofReading r
      let ts ← ofReadings rest
      return t :: ts

/-- Adds the entries one by one, refusing a key that is there already. -/
def ofReadingEntries (acc : List (Tree × Tree)) :
    List (Reading × Reading) → Except DecodeError (List (Tree × Tree))
  | [] => .ok acc
  | (k, r) :: rest => do
      let key ← ofReading k
      if hasKey key acc then throw .unreadable
      let value ← ofReading r
      ofReadingEntries (acc ++ [(key, value)]) rest

end

end Tree

/-- What was read from a text, and whether nothing but the document stands in it. -/
structure TextReading where
  reading : Reading
  complete : Bool

namespace TextReading

/-- The result of using a reading; whatever else stands in the text is refused last. -/
def finish {α : Type} (r : TextReading) (used : Except DecodeError α) : Except DecodeError α :=
  match used with
  | .ok a => if r.complete then .ok a else .error .unreadable
  | .error e => .error e

/-- The text as plain data. -/
def value (r : TextReading) : Except DecodeError Value :=
  r.finish (Value.ofReading r.reading)

/-- The text as a document tree. -/
def tree (r : TextReading) : Except DecodeError Tree :=
  r.finish (Tree.ofReading r.reading)

end TextReading

/-- The plain data of a document tree. -/
def Value.ofTree (t : Tree) : Except DecodeError Value :=
  Value.ofReading t.reading

namespace Value

mutual

/-- A value as a document; built things are written as their descriptions, and a document has one NaN
only. -/
def toTree (describe : Source → String) : Value → Tree
  | .null => .null
  | .bool b => .bool b
  | .int i => .int i.toInt
  | .float x => .float x.canonical
  | .string s => .string s
  | .list items => .seq (toTrees describe items)
  | .map entries => .map (toTreeEntries describe entries)
  | .object o => .string ("<" ++ o.typeName ++ ">")
  | .source s => .string ("<source " ++ describe s ++ ">")

def toTrees (describe : Source → String) : List Value → List Tree
  | [] => []
  | v :: rest => toTree describe v :: toTrees describe rest

def toTreeEntries (describe : Source → String) : List (String × Value) → List (Tree × Tree)
  | [] => []
  | (k, v) :: rest => (.string k, toTree describe v) :: toTreeEntries describe rest

end

end Value

end DataCatalog
