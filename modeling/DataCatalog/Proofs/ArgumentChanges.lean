import DataCatalog.Proofs.AskedArguments

/-!
# Changing the arguments of recipes

A builder hands every callable two kinds of arguments: those that a recipe gives, and the
initialised values.  What one builder offers as initialised values another one may find among the
arguments of the recipes.  `Node.mapArgs` changes the arguments of every recipe of a configuration,
and `Builder.Balances` says of such a change that it makes up for the difference between two
builders wherever a callable is called.

Main statements: `Builder.resolve_mapArgs` and `Builder.runValidators_mapArgs` say that a change
that does so for every single call does so for whole configurations, however deep their recipes
stand.
-/

set_option autoImplicit false

namespace DataCatalog

namespace Node

mutual

/-- Changes the arguments of every recipe in a configuration, those of inner recipes first. -/
def mapArgs (change : String → Entries Node → Entries Node) : Node → Node
  | .seq items => .seq (mapItemArgs change items)
  | .map entries => .map (mapEntryArgs change entries)
  | .recipe callable args => .recipe callable (change callable (mapEntryArgs change args))
  | other => other

def mapItemArgs (change : String → Entries Node → Entries Node) : List Node → List Node
  | [] => []
  | n :: rest => mapArgs change n :: mapItemArgs change rest

def mapEntryArgs (change : String → Entries Node → Entries Node) :
    List (String × Node) → List (String × Node)
  | [] => []
  | (k, n) :: rest => (k, mapArgs change n) :: mapEntryArgs change rest

end

end Node

/-- A recipe with its arguments changed, at every level. -/
def Recipe.mapArgs (change : String → Entries Node → Entries Node) (r : Recipe) : Recipe :=
  { r with args := change r.callable (Node.mapEntryArgs change r.args) }

/-- A dataset with the arguments of its recipes changed. -/
def DatasetEntry.mapArgs (change : String → Entries Node → Entries Node) (entry : DatasetEntry) :
    DatasetEntry :=
  ⟨entry.source.mapArgs change, entry.validations.map (Recipe.mapArgs change)⟩

/-- What depends on the arguments only as far as a callable does. -/
def Callable.Decides {m : Type → Type} {α : Type} (f : Arguments → ExceptT CatalogError m α) :
    Callable m → Prop
  | .factory run => ∀ a b, run a = run b → f a = f b
  | .validator run => ∀ a b, (∀ source, run source a = run source b) → f a = f b

namespace Builder

variable {m : Type → Type} [Monad m]

/-- A change of arguments that makes up, at every call, for what two builders do not both offer. -/
structure Balances (change : String → Entries Node → Entries Node) (b b' : Builder m) : Prop where
  registry : b'.registry = b.registry
  call : ∀ {reference : String} {callable : Callable m},
    b.registry.resolve reference = .ok callable →
    ∀ {α : Type} {f : Arguments → ExceptT CatalogError m α}, callable.Decides f →
    ∀ (p : Position) (nodes : Entries Node),
      (b'.resolveEntries p nodes >>= fun explicit => f ⟨Dict.ofList explicit, b.initialised⟩) =
        b'.resolveEntries p (change reference nodes) >>= fun explicit =>
          f ⟨Dict.ofList explicit, b'.initialised⟩

variable {change : String → Entries Node → Entries Node} {b b' : Builder m}

mutual

/-- A change that balances single calls balances the calls in a configuration. -/
theorem resolve_mapArgs (h : Balances change b b') (p : Position) : (n : Node) →
    b.resolve p n = b'.resolve p (n.mapArgs change)
  | .null => rfl
  | .bool _ => rfl
  | .int _ => rfl
  | .float _ => rfl
  | .string _ => rfl
  | .seq items => by
      rw [Node.mapArgs, resolve, resolve, resolveItems_mapArgs h p 0 items]
  | .map entries => by
      rw [Node.mapArgs, resolve, resolve, resolveEntries_mapArgs h p entries]
  | .recipe callable args => by
      rw [Node.mapArgs, resolve, resolve, h.registry]
      cases hfound : b.registry.resolveFactory callable with
      | error e => rfl
      | ok factory =>
          dsimp only
          rw [resolveEntries_mapArgs h (p.key Recipe.argsKey) args]
          refine h.call (Registry.resolve_of_resolveFactory hfound)
            (f := fun a => ExceptT.adapt (.invocation p callable) (factory a)) ?_ _ _
          intro x y same
          dsimp only
          rw [same]

theorem resolveItems_mapArgs (h : Balances change b b') (p : Position) (i : Nat) :
    (items : List Node) →
    b.resolveItems p i items = b'.resolveItems p i (Node.mapItemArgs change items)
  | [] => rfl
  | n :: rest => by
      rw [Node.mapItemArgs, resolveItems, resolveItems, resolve_mapArgs h (p.index i) n,
        resolveItems_mapArgs h p (i + 1) rest]

theorem resolveEntries_mapArgs (h : Balances change b b') (p : Position) :
    (entries : List (String × Node)) →
    b.resolveEntries p entries = b'.resolveEntries p (Node.mapEntryArgs change entries)
  | [] => rfl
  | (k, n) :: rest => by
      rw [Node.mapEntryArgs, resolveEntries, resolveEntries, resolve_mapArgs h (p.key k) n,
        resolveEntries_mapArgs h p rest]

end

variable [LawfulMonad m]

/-- What follows the arguments of a recipe, and depends on them as far as its callable does. -/
theorem resolveArgs_mapArgs_bind {α : Type} (h : Balances change b b') (p : Position) {r : Recipe}
    {callable : Callable m} (hfound : b.registry.resolve r.callable = .ok callable)
    {f : Arguments → ExceptT CatalogError m α} (hdecides : callable.Decides f) :
    b.resolveArgs p r >>= f = b'.resolveArgs p (r.mapArgs change) >>= f := by
  unfold resolveArgs
  rw [resolveEntries_mapArgs h]
  simp only [bind_assoc, pure_bind]
  exact h.call hfound hdecides _ _

/-- A change that balances single calls balances a run of validators. -/
theorem runValidators_mapArgs (h : Balances change b b') (p : Position) (source : Source) (i : Nat)
    (validations : List Recipe) :
    b.runValidators p source i validations =
      b'.runValidators p source i (validations.map (Recipe.mapArgs change)) := by
  induction validations generalizing i with
  | nil => rfl
  | cons r rest ih =>
      have hcallable : (r.mapArgs change).callable = r.callable := rfl
      rw [List.map_cons, runValidators, runValidators, ih, hcallable, h.registry]
      cases hfound : b.registry.resolveValidator r.callable with
      | error e => rfl
      | ok validator =>
          apply resolveArgs_mapArgs_bind h _ (Registry.resolve_of_resolveValidator hfound)
          intro x y same
          unfold judge
          dsimp only
          rw [same source]

end Builder

end DataCatalog
