import DataCatalog.Document.Outline
import DataCatalog.Position

/-!
# Malformed configurations

The rules that a document can break, each with its sentence, and the position of the node that
breaks it.
-/

set_option autoImplicit false

namespace DataCatalog

/-- The rules that a document can break. -/
inductive Malformation where
  /-- An integer does not fit in 64 bits with a sign. -/
  | integerRange (i : Int)
  /-- A mapping has a key that is no scalar. -/
  | keyNotScalar
  /-- Two keys of a mapping have the same text. -/
  | duplicateKey (key : String)
  /-- The callable of a recipe is no text, or a blank one. -/
  | callableNotText
  /-- A recipe has no callable. -/
  | callableMissing
  /-- A recipe has keys of no meaning. -/
  | unknownKeys (callable : String) (keys : List String)
  /-- The arguments of a recipe are no mapping. -/
  | argsNotMapping
  /-- The validations of a dataset are no list. -/
  | validationsNotList
  /-- A validation is no mapping. -/
  | recipeNotMapping
  /-- A dataset is no mapping. -/
  | datasetNotMapping
  /-- A catalog is no mapping. -/
  | catalogNotMapping
  /-- The name of a dataset is no text. -/
  | nameNotText
  deriving DecidableEq, Repr

/-- The sentence for a broken rule. -/
def Malformation.reason : Malformation → String
  | .integerRange i => "integer " ++ toString i ++ " does not fit in i64"
  | .keyNotScalar => "mapping keys must be scalars"
  | .duplicateKey key => "duplicate mapping key '" ++ key ++ "'"
  | .callableNotText => "`callable` must be a non-empty string"
  | .callableMissing => "missing `callable`"
  | .unknownKeys callable keys =>
      "recipe for '" ++ callable ++ "' has unknown key(s): " ++ ", ".intercalate keys
  | .argsNotMapping => "`args` must be a mapping"
  | .validationsNotList => "`validations` must be a list of recipes"
  | .recipeNotMapping => "expected a recipe mapping"
  | .datasetNotMapping => "a dataset must be a mapping with a `callable`"
  | .catalogNotMapping => "a catalog must be a mapping of dataset names to recipes"
  | .nameNotText => "dataset names must be strings"

/-- The rule that faulty keys break. -/
def KeyFault.malformation : KeyFault → Malformation
  | .notScalar => .keyNotScalar
  | .duplicate key => .duplicateKey key

/-- A broken rule and the position of the node that breaks it. -/
structure Malformed where
  position : Position
  rule : Malformation
  deriving DecidableEq, Repr

end DataCatalog
