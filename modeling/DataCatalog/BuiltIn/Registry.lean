import DataCatalog.BuiltIn.File
import DataCatalog.BuiltIn.Memory
import DataCatalog.BuiltIn.Validators
import DataCatalog.Catalog
import DataCatalog.Host.World

/-!
# The built-in callables

Every catalog can be given sources in files and in memory, and validators for both.
-/

set_option autoImplicit false

namespace DataCatalog

namespace BuiltIn

variable {m : Type → Type} [Monad m] [Files m] [Memory m]

/-- The built-in callables by reference. -/
def callables : List (String × Callable m) :=
  [("talog.sources.InMemory", .factory MemorySource.factory),
    ("talog.sources.File", .factory FileSource.factory),
    ("talog.validators.not_empty", .validator Validator.notEmpty),
    ("talog.validators.min_length", .validator Validator.minLength),
    ("talog.validators.max_length", .validator Validator.maxLength),
    ("talog.validators.file_exists", .validator Validator.fileExists)]

/-- The registry of the built-in callables. -/
def registry : Registry m := Registry.empty.registerAll callables

/-- Fetches the data of a built-in source. -/
def read (s : Source) : ExceptT CallError m Value :=
  match s.kind with
  | .file path format => FileSource.read path format
  | .memory => ExceptT.lift (Memory.payload s.identity)
  | .foreign typeName _ => throw (.failed ("no host for " ++ typeName))

/-- Replaces the data of a built-in source. -/
def write (s : Source) (data : Value) : ExceptT CallError m Unit :=
  match s.kind with
  | .file path format => FileSource.write path format data
  | .memory => ExceptT.lift (Memory.setPayload s.identity data)
  | .foreign typeName _ => throw (.failed ("no host for " ++ typeName))

end BuiltIn

/-- A world has the built-in sources only. -/
instance : DataSources (StateM World) where
  read := BuiltIn.read
  write := BuiltIn.write

end DataCatalog
