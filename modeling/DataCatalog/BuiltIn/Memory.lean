import DataCatalog.Arguments
import DataCatalog.Host.Effects

/-!
# Payloads as sources

A source in memory holds a payload from its recipe.  Writing replaces the payload of that source and
of no other.
-/

set_option autoImplicit false

namespace DataCatalog.MemorySource

variable {m : Type → Type} [Monad m] [Memory m]

/-- What a recipe says of a payload. -/
def described : ArgumentReader Value := do
  let data ← ArgumentReader.required .any "data"
  ArgumentReader.finish
  return data

/-- A new source with a payload. -/
def build (data : Value) : m Source := do
  let identity ← Memory.fresh
  Memory.setPayload identity data
  return ⟨identity, .memory⟩

/-- Builds the source of a payload. -/
def factory (args : Arguments) : ExceptT CallError m Value := do
  match args.read described with
  | .error e => throw e
  | .ok data => return .source (← (build data : m Source))

end DataCatalog.MemorySource
