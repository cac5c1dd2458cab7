/-!
# Data sources and opaque objects

A callable may build things that are not data.  An object is known to the catalog by its type's
name and its identity only.  A source can be read, and some sources can be written; what a source
is (`SourceKind`) is fixed when it is built, so that validators can look at it without reading it.

Values hold both as handles.  What stands behind a handle belongs to whoever runs the catalog.
-/

set_option autoImplicit false

namespace DataCatalog

/-- How the text of a file is understood. -/
inductive FileFormat where
  | text
  | lines
  | yaml
  | json
  deriving DecidableEq, Repr

/-- The name of a format. -/
def FileFormat.name : FileFormat → String
  | .text => "text"
  | .lines => "lines"
  | .yaml => "yaml"
  | .json => "json"

/-- What a source is: a file, a payload in memory, or a kind of its own. -/
inductive SourceKind where
  | file (path : String) (format : FileFormat)
  | memory
  | foreign (typeName : String) (writable : Bool)
  deriving DecidableEq, Repr

/-- A handle of a source; two handles of one identity are the same source. -/
structure Source where
  identity : Nat
  kind : SourceKind
  deriving DecidableEq, Repr

/-- Whether a source takes data: files and payloads do, other kinds say so themselves. -/
def Source.writable (s : Source) : Bool :=
  match s.kind with
  | .file _ _ => true
  | .memory => true
  | .foreign _ writable => writable

/-- A handle of an opaque object. -/
structure Object where
  identity : Nat
  typeName : String
  deriving DecidableEq, Repr

namespace TypeName

/-- The characters before the first pair of colons. -/
def untilColons : List Char → List Char
  | [] => []
  | ':' :: ':' :: _ => []
  | c :: rest => c :: untilColons rest

/-- The name of a type without its path and parameters: `Wrapper` for `a::b::Wrapper<c::Inner>`. -/
def short (full : String) : String :=
  let base := full.toList.takeWhile (· ≠ '<')
  String.ofList (untilColons base.reverse).reverse

end TypeName

end DataCatalog
