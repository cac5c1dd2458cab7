import DataCatalog.Recipe.Parser
import DataCatalog.Validation

/-!
# Catalogs

A catalog keeps recipes, not objects: every use builds the source of a dataset afresh, and reading
it runs the dataset's validators first.  Building a source reads nothing.
-/

set_option autoImplicit false

namespace DataCatalog

/-- What can be done with the sources of a host. -/
class DataSources (m : Type → Type) where
  /-- Fetches the data. -/
  read : Source → ExceptT CallError m Value
  /-- Replaces the data of a writable source. -/
  write : Source → Value → ExceptT CallError m Unit

/-- Datasets by name, with the callables and values to build them with. -/
structure Catalog (m : Type → Type) where
  datasets : Dict DatasetEntry
  registry : Registry m
  initialised : Dict Value

namespace Catalog

variable {m : Type → Type}

/-- Reads the datasets of a document one by one; a later one replaces an earlier one of its name. -/
def parseDatasets (acc : Dict DatasetEntry) :
    List (Tree × Tree) → Except Malformed (Dict DatasetEntry)
  | [] => .ok acc
  | (key, value) :: rest =>
      match key.text? with
      | none => .error ⟨Position.root, .nameNotText⟩
      | some name =>
          match DatasetEntry.parse name value with
          | .error e => .error e
          | .ok entry => parseDatasets (acc.insert name entry) rest

/-- The datasets of a document. -/
def datasetsOf (document : Tree) : Except Malformed (Dict DatasetEntry) :=
  match document.mapping? with
  | none => .error ⟨Position.root, .catalogNotMapping⟩
  | some entries => parseDatasets Dict.empty entries

/-- The catalog of a document, with no initialised values. -/
def ofDocument (document : Tree) (registry : Registry m) : Except CatalogError (Catalog m) :=
  match datasetsOf document with
  | .ok datasets => .ok ⟨datasets, registry, Dict.empty⟩
  | .error e => .error (.malformed e)

/-- The same catalog, offering values to every call. -/
def withInitialised (c : Catalog m) (initialised : Dict Value) : Catalog m :=
  { c with initialised }

def names (c : Catalog m) : List String := c.datasets.keys

def contains (c : Catalog m) (name : String) : Bool := c.datasets.contains name

def entry? (c : Catalog m) (name : String) : Option DatasetEntry := c.datasets.get? name

def size (c : Catalog m) : Nat := c.datasets.size

def isEmpty (c : Catalog m) : Bool := c.datasets.isEmpty

/-- A line for every dataset: its name and its callable. -/
def display (c : Catalog m) : String :=
  "\n".intercalate (c.datasets.entries.map fun (name, entry) =>
    name ++ ": " ++ entry.source.callable)

/-- What the recipes of a catalog are built with. -/
def builder (c : Catalog m) : Builder m := ⟨c.registry, c.initialised⟩

/-- The dataset of a name. -/
def find (c : Catalog m) (name : String) : Except CatalogError DatasetEntry :=
  match c.entry? name with
  | some entry => .ok entry
  | none => .error (.unknownDataset name c.names)

variable [Monad m]

/-- Builds the source of a dataset. -/
def buildSource (c : Catalog m) (name : String) (entry : DatasetEntry) :
    ExceptT CatalogError m Source := do
  match ← c.builder.build (Position.root.key name) entry.source with
  | .source s => return s
  | other => throw (.notADataSource name entry.source.callable other.kind)

/-- The source of a dataset, without reading it. -/
def source (c : Catalog m) (name : String) : ExceptT CatalogError m Source := do
  let entry ← c.find name
  c.buildSource name entry

/-- Builds the source of a dataset and runs its validators; nothing is read. -/
def validate (c : Catalog m) (name : String) : ExceptT CatalogError m ValidationReport := do
  let entry ← c.find name
  let s ← c.buildSource name entry
  c.builder.validate name s entry.validations

variable [DataSources m]

/-- Reads a dataset, after its validators unless they are skipped. -/
def readWith (c : Catalog m) (name : String) (skipValidation : Bool) :
    ExceptT CatalogError m Value := do
  let entry ← c.find name
  let s ← c.buildSource name entry
  if !skipValidation then
    let report ← c.builder.validate name s entry.validations
    match report.result with
    | .ok _ => pure ()
    | .error e => throw (.validation e)
  ExceptT.adapt (.sourceRead name) (DataSources.read s)

/-- Reads a dataset after its validators. -/
def read (c : Catalog m) (name : String) : ExceptT CatalogError m Value :=
  c.readWith name false

/-- Reads the datasets of the names, in their order. -/
def readNames (c : Catalog m) : List String → ExceptT CatalogError m (Entries Value)
  | [] => pure []
  | name :: rest => do
      let data ← c.read name
      let later ← c.readNames rest
      return (name, data) :: later

/-- Reads every dataset; the first failure ends it. -/
def readAll (c : Catalog m) : ExceptT CatalogError m (Entries Value) :=
  c.readNames c.names

/-- Writes data to the source of a dataset; validators do not run. -/
def write (c : Catalog m) (name : String) (data : Value) : ExceptT CatalogError m Unit := do
  let s ← c.source name
  if s.writable then
    ExceptT.adapt (.sourceWrite name) (DataSources.write s data)
  else throw (.notWriteable name)

end Catalog

end DataCatalog
