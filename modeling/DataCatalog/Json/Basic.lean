import DataCatalog.Document.Reading

/-!
# JSON documents

`Json` is the data model of JSON texts.  `Value.toJson` writes a value into it: built things as their
descriptions, and infinities and NaN as null, for which JSON has no words.  `Json.reading` reads a
document back.
-/

set_option autoImplicit false

namespace DataCatalog

/-- A JSON document. -/
inductive Json where
  | null
  | bool (b : Bool)
  | int (i : Int)
  | float (x : Binary64)
  | string (s : String)
  | array (items : List Json)
  | object (entries : List (String × Json))
  deriving Inhabited

namespace Value

mutual

/-- A value as a JSON document. -/
def toJson (describe : Source → String) : Value → Json
  | .null => .null
  | .bool b => .bool b
  | .int i => .int i.toInt
  | .float x => if x.isFinite then .float x else .null
  | .string s => .string s
  | .list items => .array (toJsons describe items)
  | .map entries => .object (toJsonEntries describe entries)
  | .object o => .string ("<" ++ o.typeName ++ ">")
  | .source s => .string ("<source " ++ describe s ++ ">")

def toJsons (describe : Source → String) : List Value → List Json
  | [] => []
  | v :: rest => toJson describe v :: toJsons describe rest

def toJsonEntries (describe : Source → String) : List (String × Value) → List (String × Json)
  | [] => []
  | (k, v) :: rest => (k, toJson describe v) :: toJsonEntries describe rest

end

end Value

namespace Json

mutual

/-- A document read as it stands. -/
def reading : Json → Reading
  | .null => .null
  | .bool b => .bool b
  | .int i => .int i
  | .float x => .float x
  | .string s => .string s
  | .array items => .seq (readings items)
  | .object entries => .map (readingEntries entries)

def readings : List Json → List Reading
  | [] => []
  | j :: rest => reading j :: readings rest

def readingEntries : List (String × Json) → List (Reading × Reading)
  | [] => []
  | (k, j) :: rest => (.string k, reading j) :: readingEntries rest

end

end Json

end DataCatalog
