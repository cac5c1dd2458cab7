import DataCatalog.Host.Effects
import DataCatalog.Host.FileStore

/-!
# A world to run in

A world is a host as a value: files, environment variables and payloads.  Every computation over a
state that contains a world has the effects that a catalog needs.
-/

set_option autoImplicit false

namespace DataCatalog

/-- Files, environment variables and payloads. -/
structure World where
  files : FileStore
  «variables» : Dict String
  memory : MemoryStore
  deriving Inhabited

/-- States that contain a world. -/
class HasWorld (σ : Type) where
  world : σ → World
  withWorld : World → σ → σ

instance : HasWorld World where
  world := id
  withWorld w _ := w

namespace HasWorld

variable {σ : Type} [HasWorld σ]

instance : Files (StateM σ) where
  readText path := fun s => ((world s).files.readText path, s)
  isPresent path := fun s => ((world s).files.isPresent path, s)
  hasContent path := fun s => ((world s).files.hasContent path, s)
  replace path text := fun s =>
    match (world s).files.replace path text with
    | .ok files => (.ok (), withWorld { world s with files } s)
    | .error blamed => (.error blamed, s)

instance : Variables (StateM σ) where
  «variables» := fun s => ((world s).variables.get?, s)

instance : Memory (StateM σ) where
  getStore := fun s => ((world s).memory, s)
  setStore memory := fun s => ((), withWorld { world s with memory } s)

end HasWorld

end DataCatalog
