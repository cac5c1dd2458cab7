import DataCatalog.Error
import DataCatalog.Recipe.Basic

/-!
# Building values from recipes

A configuration is resolved from the leaves to the root: every argument of a recipe is resolved
before the recipe's own callable runs, so that a callable sees built values only.  Entries are
visited in the order of their keys and elements by index.  The callable of a recipe is looked up
before its arguments are resolved.  Plain data becomes the value of the same shape.
-/

set_option autoImplicit false

namespace DataCatalog

/-- What recipes are built with: the callables, and the values offered to every call. -/
structure Builder (m : Type → Type) where
  registry : Registry m
  initialised : Dict Value

namespace Builder

variable {m : Type → Type} [Monad m]

mutual

/-- The value of the configuration at a position. -/
def resolve (b : Builder m) (p : Position) : Node → ExceptT CatalogError m Value
  | .null => pure .null
  | .bool v => pure (.bool v)
  | .int i => pure (.int i)
  | .float x => pure (.float x)
  | .string s => pure (.string s)
  | .seq items => return .list (← resolveItems b p 0 items)
  | .map entries => return .map (← resolveEntries b p entries)
  | .recipe callable args => do
      match b.registry.resolveFactory callable with
      | .error e => throw (.reference p e)
      | .ok factory =>
          let explicit ← resolveEntries b (p.key Recipe.argsKey) args
          ExceptT.adapt (.invocation p callable) (factory ⟨Dict.ofList explicit, b.initialised⟩)

/-- The values of the elements from an index on. -/
def resolveItems (b : Builder m) (p : Position) (i : Nat) :
    List Node → ExceptT CatalogError m (List Value)
  | [] => pure []
  | n :: rest => do
      let v ← resolve b (p.index i) n
      let vs ← resolveItems b p (i + 1) rest
      return v :: vs

/-- The values of entries, in their order. -/
def resolveEntries (b : Builder m) (p : Position) :
    List (String × Node) → ExceptT CatalogError m (Entries Value)
  | [] => pure []
  | (k, n) :: rest => do
      let v ← resolve b (p.key k) n
      let vs ← resolveEntries b p rest
      return (k, v) :: vs

end

/-- The arguments of a recipe at a position, resolved. -/
def resolveArgs (b : Builder m) (p : Position) (r : Recipe) :
    ExceptT CatalogError m Arguments := do
  let explicit ← b.resolveEntries (p.key Recipe.argsKey) r.args
  return ⟨Dict.ofList explicit, b.initialised⟩

/-- Builds the recipe at a position. -/
def build (b : Builder m) (p : Position) (r : Recipe) : ExceptT CatalogError m Value :=
  b.resolve p r.node

end Builder

end DataCatalog
