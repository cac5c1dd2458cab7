import DataCatalog.Dict
import DataCatalog.Host.SystemText
import DataCatalog.Value

/-!
# What a catalog needs of its host

Callables and commands run in a monad of the host's choice.  `Files` gives them files by path,
`Variables` the environment, and `Memory` the payloads that live only as long as the host.  Whatever
else a host can do, the catalog has no way to do it.
-/

set_option autoImplicit false

namespace DataCatalog

/-- Files by path. -/
class Files (m : Type → Type) where
  /-- The text of a file, if there is a file and it holds text. -/
  readText : SystemText → m (Option String)
  /-- Whether something has a path. -/
  isPresent : SystemText → m Bool
  /-- Whether something that is not empty has a path. -/
  hasContent : SystemText → m Bool
  /-- Gives a file a new text, all at once; a failure changes nothing and names the path that is to
  blame, the directory or the file. -/
  replace : (path : SystemText) → (text : String) → m (Except SystemText Unit)

/-- Environment variables. -/
class Variables (m : Type → Type) where
  /-- The values of the variables that are set. -/
  «variables» : m (String → Option String)

/-- The payloads in memory, by identity. -/
structure MemoryStore where
  payloads : List (Nat × Value)
  /-- The identity of what is built next. -/
  next : Nat
  deriving Inhabited

namespace MemoryStore

def empty : MemoryStore := ⟨[], 0⟩

/-- The payload of an identity; null before there is one. -/
def payload (s : MemoryStore) (identity : Nat) : Value :=
  (s.payloads.lookup identity).getD .null

def setPayload (s : MemoryStore) (identity : Nat) (data : Value) : MemoryStore :=
  { s with payloads := (identity, data) :: s.payloads.filter (·.1 != identity) }

@[simp] theorem payload_setPayload (s : MemoryStore) (identity other : Nat) (data : Value) :
    (s.setPayload identity data).payload other =
      if other = identity then data else s.payload other := by
  unfold payload setPayload
  by_cases h : other = identity
  · subst h
    simp
  · have hlookup : (List.filter (·.1 != identity) s.payloads).lookup other =
        s.payloads.lookup other := by
      induction s.payloads with
      | nil => rfl
      | cons head rest ih =>
          obtain ⟨k, v⟩ := head
          by_cases hk : k = identity
          · subst hk
            simpa [List.lookup_cons, beq_eq_false_iff_ne.2 h] using ih
          · by_cases ho : other = k
            · subst ho
              simp [hk]
            · simpa [List.lookup_cons, hk, beq_eq_false_iff_ne.2 ho] using ih
    simp [List.lookup_cons, h, beq_eq_false_iff_ne.2 h, hlookup]

end MemoryStore

/-- A place for payloads. -/
class Memory (m : Type → Type) where
  getStore : m MemoryStore
  setStore : MemoryStore → m Unit

namespace Memory

variable {m : Type → Type} [Monad m] [Memory m]

/-- An identity that nothing has yet. -/
def fresh : m Nat := do
  let store ← getStore
  setStore { store with next := store.next + 1 }
  return store.next

/-- The payload of an identity. -/
def payload (identity : Nat) : m Value := do
  return (← getStore).payload identity

/-- Gives an identity another payload. -/
def setPayload (identity : Nat) (data : Value) : m Unit := do
  setStore ((← getStore).setPayload identity data)

end Memory

/-- How a source describes itself: a file by path and format, a payload by its kind. -/
def MemoryStore.describe (store : MemoryStore) (s : Source) : String :=
  match s.kind with
  | .file path format => "File(" ++ path ++ ", " ++ format.name ++ ")"
  | .memory => "InMemory(" ++ (store.payload s.identity).kind ++ ")"
  | .foreign typeName _ => typeName

/-- How sources describe themselves now. -/
def Memory.descriptions {m : Type → Type} [Monad m] [Memory m] : m (Source → String) := do
  return (← Memory.getStore).describe

end DataCatalog
