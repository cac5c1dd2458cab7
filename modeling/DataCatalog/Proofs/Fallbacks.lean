import DataCatalog.Proofs.ArgumentChanges
import DataCatalog.Proofs.Phases
import DataCatalog.Proofs.PlainData

/-!
# Initialised values as arguments

An initialised value stands in for an argument that a recipe does not give.  A built-in callable
asks for a few names only (`BuiltIn.askedNames`), so that the same is said by a configuration in
which every recipe, at whatever depth, has been given the initialised values of the names that its
callable asks for and that it lacks (`Node.fill`, `DatasetEntry.fill`).

Main statements: `Builder.balances_supplying` says that supplying these names makes up for the
initialised values at every call, and `Catalog.initialised_as_arguments` that a filled catalog
without initialised values is used like the catalog with them, error for error.
-/

set_option autoImplicit false

namespace DataCatalog

/-! ## What a callable can tell apart -/

namespace Arguments

/-- Arguments that are the same to a callable that asks for some names. -/
structure Alike (asked : List String) (a b : Arguments) : Prop where
  value? : ∀ name ∈ asked, a.value? name = b.value? name
  unexpected : a.unexpected asked = b.unexpected asked

namespace Alike

variable {asked : List String} {a b : Arguments} (h : Alike asked a b)
include h

theorem required (shape : Shape) {name : String} (hmem : name ∈ asked) :
    a.required shape name = b.required shape name := by
  unfold Arguments.required
  rw [h.value? name hmem]

theorem optional (shape : Shape) {name : String} (hmem : name ∈ asked) :
    a.optional shape name = b.optional shape name := by
  unfold Arguments.optional
  rw [h.value? name hmem]

theorem finish : a.finish asked = b.finish asked := by
  unfold Arguments.finish
  rw [h.unexpected]

end Alike

theorem Alike.read_nothing {a b : Arguments} (h : Alike [] a b) :
    a.read ArgumentReader.finish = b.read ArgumentReader.finish := by
  rw [Arguments.read_nothing, Arguments.read_nothing, h.finish]

theorem Alike.read_payload {a b : Arguments} (h : Alike ["data"] a b) :
    a.read MemorySource.described = b.read MemorySource.described := by
  rw [Arguments.read_payload, Arguments.read_payload, h.required .any (by decide), h.finish]

theorem Alike.read_bound {name : String} {a b : Arguments} (h : Alike [name] a b) :
    a.read (Validator.bound name) = b.read (Validator.bound name) := by
  rw [Arguments.read_bound, Arguments.read_bound, h.required .natural List.mem_cons_self, h.finish]

theorem Alike.read_file {a b : Arguments} (h : Alike ["path", "format", "base_dir"] a b) :
    a.read FileSource.described = b.read FileSource.described := by
  rw [Arguments.read_file, Arguments.read_file, h.required .string (by decide),
    h.optional .string (by decide), h.optional .string (by decide), h.finish]

end Arguments

/-- A callable that asks for no names but these: it does the same with alike arguments. -/
def Callable.Asks {m : Type → Type} (asked : List String) : Callable m → Prop
  | .factory run => ∀ a b, Arguments.Alike asked a b → run a = run b
  | .validator run => ∀ source a b, Arguments.Alike asked a b → run source a = run source b

/-- What depends on arguments as a callable does is the same for alike arguments. -/
theorem Callable.Asks.decided {m : Type → Type} {asked : List String} {callable : Callable m}
    (hasks : callable.Asks asked) {α : Type} {f : Arguments → ExceptT CatalogError m α}
    (hdecides : callable.Decides f) {a b : Arguments} (alike : Arguments.Alike asked a b) :
    f a = f b := by
  cases callable with
  | factory run => exact hdecides a b (hasks a b alike)
  | validator run => exact hdecides a b fun source => hasks source a b alike

namespace BuiltIn

/-- The names that each built-in callable asks for, by reference. -/
def asked : Entries (List String) :=
  [("talog.sources.InMemory", ["data"]),
    ("talog.sources.File", ["path", "format", "base_dir"]),
    ("talog.validators.min_length", ["min"]),
    ("talog.validators.max_length", ["max"])]

/-- The names that the callable of a reference asks for. -/
def askedNames (reference : String) : List String :=
  (Entries.get? reference asked).getD []

/-- Every name that some built-in callable asks for. -/
def allAskedNames : List String :=
  asked.flatMap Prod.snd

example : allAskedNames = ["data", "path", "format", "base_dir", "min", "max"] := rfl

theorem askedNames_subset (reference : String) : askedNames reference ⊆ allAskedNames := by
  unfold askedNames
  cases hfound : Entries.get? reference asked with
  | none => exact List.nil_subset _
  | some names =>
      intro name hmem
      exact List.mem_flatMap.2 ⟨_, Entries.mem_of_get?_eq_some hfound, hmem⟩

variable {m : Type → Type} [Monad m] [Files m] [Memory m]

theorem asks_of_mem {reference : String} {callable : Callable m}
    (h : (reference, callable) ∈ (callables : List (String × Callable m))) :
    callable.Asks (askedNames reference) := by
  simp only [callables, List.mem_cons, Prod.mk.injEq, List.not_mem_nil, or_false] at h
  rcases h with ⟨rfl, rfl⟩ | ⟨rfl, rfl⟩ | ⟨rfl, rfl⟩ | ⟨rfl, rfl⟩ | ⟨rfl, rfl⟩ | ⟨rfl, rfl⟩
  · intro a b h
    unfold MemorySource.factory
    rw [Arguments.Alike.read_payload h]
  · intro a b h
    unfold FileSource.factory
    rw [Arguments.Alike.read_file h]
  · intro source a b h
    unfold Validator.notEmpty
    rw [Arguments.Alike.read_nothing h]
  · intro source a b h
    unfold Validator.minLength Validator.lengthWithin
    rw [Arguments.Alike.read_bound h]
  · intro source a b h
    unfold Validator.maxLength Validator.lengthWithin
    rw [Arguments.Alike.read_bound h]
  · intro source a b h
    unfold Validator.fileExists
    rw [Arguments.Alike.read_nothing h]

/-- A built-in callable asks for its names only. -/
theorem asks_of_resolve {reference : String} {callable : Callable m}
    (h : (registry : Registry m).resolve reference = .ok callable) :
    callable.Asks (askedNames reference) :=
  asks_of_mem (mem_of_resolve h)

theorem factory_congr {reference : String} {factory : Arguments → ExceptT CallError m Value}
    (h : (registry : Registry m).resolveFactory reference = .ok factory) {a b : Arguments}
    (alike : Arguments.Alike (askedNames reference) a b) : factory a = factory b :=
  asks_of_resolve (Registry.resolve_of_resolveFactory h) a b alike

theorem validator_congr {reference : String}
    {validator : Source → Arguments → ExceptT CallError m Verdict}
    (h : (registry : Registry m).resolveValidator reference = .ok validator) (source : Source)
    {a b : Arguments} (alike : Arguments.Alike (askedNames reference) a b) :
    validator source a = validator source b :=
  asks_of_resolve (Registry.resolve_of_resolveValidator h) source a b alike

end BuiltIn

/-! ## Giving a recipe what it lacks -/

namespace Value

mutual

/-- Plain data as a configuration; built things have none. -/
def node? : Value → Option Node
  | .null => some .null
  | .bool b => some (.bool b)
  | .int i => some (.int i)
  | .float x => some (.float x)
  | .string s => some (.string s)
  | .list items => (itemNodes? items).map .seq
  | .map entries => (entryNodes? entries).map .map
  | .object _ => none
  | .source _ => none

def itemNodes? : List Value → Option (List Node)
  | [] => some []
  | v :: rest =>
      match node? v, itemNodes? rest with
      | some n, some ns => some (n :: ns)
      | _, _ => none

def entryNodes? : List (String × Value) → Option (Entries Node)
  | [] => some []
  | (k, v) :: rest =>
      match node? v, entryNodes? rest with
      | some n, some ns => some ((k, n) :: ns)
      | _, _ => none

end

mutual

/-- Plain data is the value of its configuration. -/
theorem value?_of_node? : (v : Value) → {n : Node} → v.node? = some n → n.value? = some v
  | .null, _, h => by
      cases h
      rfl
  | .bool _, _, h => by
      cases h
      rfl
  | .int _, _, h => by
      cases h
      rfl
  | .float _, _, h => by
      cases h
      rfl
  | .string _, _, h => by
      cases h
      rfl
  | .list items, _, h => by
      obtain ⟨nodes, hnodes, rfl⟩ := Option.map_eq_some_iff.1 h
      rw [Node.value?, itemValues?_of_itemNodes? items hnodes]
      rfl
  | .map entries, _, h => by
      obtain ⟨nodes, hnodes, rfl⟩ := Option.map_eq_some_iff.1 h
      rw [Node.value?, entryValues?_of_entryNodes? entries hnodes]
      rfl

theorem itemValues?_of_itemNodes? : (values : List Value) → {nodes : List Node} →
    itemNodes? values = some nodes → Node.itemValues? nodes = some values
  | [], _, h => by
      cases h
      rfl
  | v :: rest, _, h => by
      rw [itemNodes?] at h
      split at h
      · rename_i n ns hn hns
        cases h
        exact Node.itemValues?_cons_eq_some_iff.2
          ⟨v, rest, value?_of_node? v hn, itemValues?_of_itemNodes? rest hns, rfl⟩
      · cases h

theorem entryValues?_of_entryNodes? : (values : List (String × Value)) → {nodes : Entries Node} →
    entryNodes? values = some nodes → Node.entryValues? nodes = some values
  | [], _, h => by
      cases h
      rfl
  | (k, v) :: rest, _, h => by
      rw [entryNodes?] at h
      split at h
      · rename_i n ns hn hns
        cases h
        exact Node.entryValues?_cons_eq_some_iff.2
          ⟨v, rest, value?_of_node? v hn, entryValues?_of_entryNodes? rest hns, rfl⟩
      · cases h

end

end Value

namespace Entries

universe u

variable {α : Type u}

/-- Puts what is given for a name, unless the name has an entry. -/
def supplyName (given : String → Option α) (name : String) (entries : Entries α) : Entries α :=
  if has name entries then entries
  else
    match given name with
    | some value => put name value entries
    | none => entries

/-- Puts what is given for each of some names that has no entry. -/
def supply (given : String → Option α) (entries : Entries α) : List String → Entries α
  | [] => entries
  | name :: rest => supply given (supplyName given name entries) rest

end Entries

namespace Node

mutual

/-- Gives every recipe in a configuration, as arguments, what is given for the names that its
callable asks for and that the recipe does not supply. -/
def fill (given : String → Option Node) : Node → Node
  | .seq items => .seq (fillItems given items)
  | .map entries => .map (fillEntries given entries)
  | .recipe callable args =>
      .recipe callable
        (Entries.supply given (fillEntries given args) (BuiltIn.askedNames callable))
  | other => other

def fillItems (given : String → Option Node) : List Node → List Node
  | [] => []
  | n :: rest => fill given n :: fillItems given rest

def fillEntries (given : String → Option Node) : List (String × Node) → List (String × Node)
  | [] => []
  | (k, n) :: rest => (k, fill given n) :: fillEntries given rest

end

end Node

/-- A recipe with the arguments that it lacks, at every level. -/
def Recipe.fill (given : String → Option Node) (r : Recipe) : Recipe :=
  { r with
    args := Entries.supply given (Node.fillEntries given r.args) (BuiltIn.askedNames r.callable) }

/-- A dataset whose recipes have the arguments that they lack. -/
def DatasetEntry.fill (given : String → Option Node) (entry : DatasetEntry) : DatasetEntry :=
  ⟨entry.source.fill given, entry.validations.map (Recipe.fill given)⟩

/-- An initialised value as an argument in a recipe. -/
def Dict.node? (initialised : Dict Value) (name : String) : Option Node :=
  (initialised.get? name).bind Value.node?

/-- Values that are all plain data. -/
def Dict.IsPlain (initialised : Dict Value) : Prop :=
  ∀ entry ∈ initialised.entries, entry.2.node?.isSome = true

instance (initialised : Dict Value) : Decidable initialised.IsPlain :=
  inferInstanceAs (Decidable (∀ entry ∈ initialised.entries, _))

/-! ### What is supplied is found -/

namespace Entries

universe u

variable {α : Type u}

/-- A name without an entry gets what is given for it. -/
theorem supplyName_cases (given : String → Option α) (name : String) (entries : Entries α) :
    supplyName given name entries = entries ∧ (has name entries = true ∨ given name = none) ∨
      ∃ value, given name = some value ∧ has name entries = false ∧
        supplyName given name entries = put name value entries := by
  unfold supplyName
  cases habsent : has name entries with
  | true => exact .inl ⟨if_pos rfl, .inl rfl⟩
  | false =>
      rw [if_neg Bool.false_ne_true]
      cases hgiven : given name with
      | none => exact .inl ⟨rfl, .inr rfl⟩
      | some value => exact .inr ⟨value, rfl, rfl, rfl⟩

theorem get?_supplyName (given : String → Option α) (name key : String) (entries : Entries α) :
    get? key (supplyName given name entries) =
      (get? key entries).or (if key = name then given name else none) := by
  rcases supplyName_cases given name entries with ⟨hkept, hhas⟩ | ⟨value, hgiven, habsent, hput⟩
  · rw [hkept]
    by_cases hkey : key = name
    · subst hkey
      rcases hhas with hhas | hnone
      · rw [has_eq_isSome_get?] at hhas
        obtain ⟨found, hfound⟩ := Option.isSome_iff_exists.1 hhas
        rw [hfound, Option.some_or]
      · rw [if_pos rfl, hnone, Option.or_none]
    · rw [if_neg hkey, Option.or_none]
  · rw [hput, get?_put]
    by_cases hkey : name = key
    · subst hkey
      have hnone : get? name entries = none := by simpa [has_eq_isSome_get?] using habsent
      rw [if_pos rfl, if_pos rfl, hnone, Option.none_or, hgiven]
    · rw [if_neg hkey, if_neg (Ne.symm hkey), Option.or_none]

/-- Under a name that is supplied there is its entry, or else what is given. -/
theorem get?_supply (given : String → Option α) (names : List String) (key : String)
    (entries : Entries α) :
    get? key (supply given entries names) =
      (get? key entries).or (if key ∈ names then given key else none) := by
  induction names generalizing entries with
  | nil => simp [supply]
  | cons name rest ih =>
      rw [supply, ih, get?_supplyName, Option.or_assoc]
      congr 1
      by_cases hkey : key = name
      · subst hkey
        by_cases hrest : key ∈ rest <;> simp [hrest]
      · simp [hkey]

/-- Putting a value adds no key but its own. -/
theorem filter_keys_put {keep : String → Bool} {key : String} (hkey : keep key = false) (value : α)
    (entries : Entries α) :
    (keys (put key value entries)).filter keep = (keys entries).filter keep := by
  induction entries with
  | nil => simp [put, keys, hkey]
  | cons head rest ih =>
      obtain ⟨k, old⟩ := head
      by_cases heq : key = k
      · subst heq
        simp [put, keys]
      · rw [put_cons_of_ne heq]
        unfold keys at ih ⊢
        split
        · rw [List.map_cons, List.filter_cons_of_neg (by simp [hkey])]
        · rw [List.map_cons, List.map_cons, List.filter_cons, List.filter_cons, ih]

theorem filter_keys_supply (given : String → Option α) {keep : String → Bool} {names : List String}
    (hnames : ∀ name ∈ names, keep name = false) (entries : Entries α) :
    (keys (supply given entries names)).filter keep = (keys entries).filter keep := by
  induction names generalizing entries with
  | nil => rfl
  | cons name rest ih =>
      obtain ⟨hname, hrest⟩ := List.forall_mem_cons.1 hnames
      rw [supply, ih hrest]
      rcases supplyName_cases given name entries with ⟨hkept, -⟩ | ⟨value, -, -, hput⟩
      · rw [hkept]
      · rw [hput, filter_keys_put hname]

/-- Supplying the entries of a list is supplying its dictionary. -/
theorem ofList_supply (given : String → Option α) (names : List String) (entries : Entries α) :
    ofList (supply given entries names) = supply given (ofList entries) names := by
  induction names generalizing entries with
  | nil => rfl
  | cons name rest ih =>
      rw [supply, supply, ih]
      congr 1
      unfold supplyName
      rw [has_ofList]
      cases habsent : has name entries with
      | true => rfl
      | false =>
          cases given name with
          | none => rfl
          | some value => exact ofList_put value habsent

end Entries

namespace Entries

universe u

variable {α : Type u}

theorem supply_congr {given given' : String → Option α} {names : List String}
    (h : ∀ name ∈ names, given name = given' name) (entries : Entries α) :
    supply given entries names = supply given' entries names := by
  induction names generalizing entries with
  | nil => rfl
  | cons name rest ih =>
      obtain ⟨hname, hrest⟩ := List.forall_mem_cons.1 h
      have hfirst : supplyName given name entries = supplyName given' name entries := by
        unfold supplyName
        rw [hname]
      rw [supply, supply, hfirst, ih hrest]

end Entries

/-- Supplies the arguments of a callable with what is given for the names that it asks for. -/
def BuiltIn.supplying (given : String → Option Node) (callable : String) (args : Entries Node) :
    Entries Node :=
  Entries.supply given args (askedNames callable)

/-- Only what is given for the names that some callable asks for is supplied. -/
theorem BuiltIn.supplying_congr {given given' : String → Option Node}
    (h : ∀ name ∈ allAskedNames, given name = given' name) :
    supplying given = supplying given' := by
  funext callable args
  apply Entries.supply_congr
  intro name hmem
  exact h name (askedNames_subset callable hmem)

section Changes

variable (given : String → Option Node)

mutual

/-- Filling is a change of the arguments of every recipe. -/
theorem Node.fill_eq_mapArgs : (n : Node) → n.fill given = n.mapArgs (BuiltIn.supplying given)
  | .null => rfl
  | .bool _ => rfl
  | .int _ => rfl
  | .float _ => rfl
  | .string _ => rfl
  | .seq items => by rw [Node.fill, Node.mapArgs, Node.fillItems_eq_mapItemArgs items]
  | .map entries => by rw [Node.fill, Node.mapArgs, Node.fillEntries_eq_mapEntryArgs entries]
  | .recipe callable args => by
      rw [Node.fill, Node.mapArgs, Node.fillEntries_eq_mapEntryArgs args, BuiltIn.supplying]

theorem Node.fillItems_eq_mapItemArgs : (items : List Node) →
    Node.fillItems given items = Node.mapItemArgs (BuiltIn.supplying given) items
  | [] => rfl
  | n :: rest => by
      rw [Node.fillItems, Node.mapItemArgs, Node.fill_eq_mapArgs n,
        Node.fillItems_eq_mapItemArgs rest]

theorem Node.fillEntries_eq_mapEntryArgs : (entries : List (String × Node)) →
    Node.fillEntries given entries = Node.mapEntryArgs (BuiltIn.supplying given) entries
  | [] => rfl
  | (k, n) :: rest => by
      rw [Node.fillEntries, Node.mapEntryArgs, Node.fill_eq_mapArgs n,
        Node.fillEntries_eq_mapEntryArgs rest]

end

theorem DatasetEntry.fill_eq_mapArgs :
    DatasetEntry.fill given = DatasetEntry.mapArgs (BuiltIn.supplying given) := by
  have hrecipe : Recipe.fill given = Recipe.mapArgs (BuiltIn.supplying given) := by
    funext r
    unfold Recipe.fill Recipe.mapArgs
    rw [Node.fillEntries_eq_mapEntryArgs, BuiltIn.supplying]
  funext entry
  unfold DatasetEntry.fill DatasetEntry.mapArgs
  rw [hrecipe]

end Changes

/-! ## Resolving what has been filled -/

namespace Builder

variable {m : Type → Type} [Monad m] [LawfulMonad m]

/-- What comes after entries were resolved may rely on their keys. -/
theorem resolveEntries_bind_congr {α : Type} (b : Builder m) (p : Position)
    (nodes : List (String × Node)) {f g : Entries Value → ExceptT CatalogError m α}
    (h : ∀ values, Entries.keys values = Entries.keys nodes → f values = g values) :
    b.resolveEntries p nodes >>= f = b.resolveEntries p nodes >>= g := by
  induction nodes generalizing f g with
  | nil => rw [resolveEntries, pure_bind, pure_bind, h [] rfl]
  | cons head rest ih =>
      obtain ⟨k, n⟩ := head
      simp only [resolveEntries, bind_assoc, pure_bind]
      congr 1
      funext v
      apply ih
      intro values hkeys
      exact h _ (congrArg (k :: ·) hkeys)

/-- A plain value that was put among entries is found among their values. -/
theorem resolveEntries_put (b : Builder m) (p : Position) {key : String} {n : Node} {v : Value}
    (hn : n.value? = some v) (nodes : List (String × Node))
    (absent : Entries.has key nodes = false) :
    b.resolveEntries p (Entries.put key n nodes) =
      b.resolveEntries p nodes >>= fun values => pure (Entries.put key v values) := by
  induction nodes with
  | nil =>
      simp only [Entries.put, resolveEntries, resolve_of_value? b n hn, pure_bind]
  | cons head rest ih =>
      obtain ⟨k, old⟩ := head
      obtain ⟨hk, hrest⟩ : k ≠ key ∧ Entries.has key rest = false := by
        simpa [Entries.has] using absent
      rw [Entries.put_cons_of_ne hk.symm]
      split
      · rename_i hlt
        simp only [resolveEntries, resolve_of_value? b n hn, pure_bind, bind_assoc, Entries.put,
          if_pos hlt]
      · rename_i hlt
        simp only [resolveEntries, ih hrest, pure_bind, bind_assoc, Entries.put, if_neg hlt,
          if_neg hk.symm]

/-- Supplying plain values to entries is supplying them to their values. -/
theorem resolveEntries_supply (b : Builder m) (p : Position) {initialised : Dict Value}
    (plain : initialised.IsPlain) (names : List String) (nodes : List (String × Node)) :
    b.resolveEntries p (Entries.supply initialised.node? nodes names) =
      b.resolveEntries p nodes >>= fun values =>
        pure (Entries.supply initialised.get? values names) := by
  have hname (name : String) (nodes : List (String × Node)) :
      b.resolveEntries p (Entries.supplyName initialised.node? name nodes) =
        b.resolveEntries p nodes >>= fun values =>
          pure (Entries.supplyName initialised.get? name values) := by
    unfold Entries.supplyName
    rw [resolveEntries_bind_congr b p nodes fun values hkeys => by
      rw [Entries.has_eq_of_keys_eq hkeys]]
    cases habsent : Entries.has name nodes with
    | true => simp
    | false =>
        simp only [Bool.false_eq_true, if_false]
        unfold Dict.node?
        cases hvalue : initialised.get? name with
        | none => simp
        | some v =>
            obtain ⟨n, hn⟩ := Option.isSome_iff_exists.1
              (plain (name, v) (Entries.mem_of_get?_eq_some hvalue))
            rw [Option.bind_some, hn]
            exact resolveEntries_put b p (Value.value?_of_node? v hn) nodes habsent
  induction names generalizing nodes with
  | nil => simp [Entries.supply]
  | cons name rest ih =>
      simp only [Entries.supply]
      rw [ih, hname, bind_assoc]
      simp only [pure_bind]

end Builder

/-- To a callable, initialised values are like arguments supplied for the names that it asks for. -/
theorem Arguments.alike_supply (asked : List String) (explicit : Entries Value)
    (initialised : Dict Value) :
    Arguments.Alike asked ⟨Dict.ofList explicit, initialised⟩
      ⟨Dict.ofList (Entries.supply initialised.get? explicit asked), Dict.empty⟩ := by
  constructor
  · intro name hmem
    show ((Dict.ofList explicit).get? name).or (initialised.get? name) =
      (Entries.get? name (Entries.ofList (Entries.supply initialised.get? explicit asked))).or none
    rw [Entries.ofList_supply, Entries.get?_supply, if_pos hmem, Option.or_none]
    rfl
  · show (Entries.keys (Entries.ofList explicit)).filter (· ∉ asked) =
      (Entries.keys (Entries.ofList (Entries.supply initialised.get? explicit asked))).filter
        (· ∉ asked)
    rw [Entries.ofList_supply, Entries.filter_keys_supply]
    intro name hmem
    simpa using hmem

/-- An initialised value makes no difference under a name that is given explicitly, or that is not
asked for. -/
theorem Arguments.alike_insert {asked : List String} {explicit initialised : Dict Value}
    {name : String} {value : Value} (h : explicit.contains name = true ∨ name ∉ asked) :
    Arguments.Alike asked ⟨explicit, initialised.insert name value⟩ ⟨explicit, initialised⟩ := by
  refine ⟨?_, rfl⟩
  intro other hmem
  show (explicit.get? other).or ((initialised.insert name value).get? other) =
    (explicit.get? other).or (initialised.get? other)
  rw [Dict.get?_insert]
  by_cases hother : name = other
  · subst hother
    rcases h with hgiven | hnot
    · rw [Dict.contains_eq_isSome_get?] at hgiven
      obtain ⟨found, hfound⟩ := Option.isSome_iff_exists.1 hgiven
      rw [hfound, Option.some_or, Option.some_or]
    · exact absurd hmem hnot
  · rw [if_neg hother]

namespace Builder

variable {m : Type → Type} [Monad m] {initialised : Dict Value}

/-- A callable does the same with arguments that were resolved from a supplied recipe. -/
theorem resolveEntries_supply_bind [LawfulMonad m] {α : Type} (b : Builder m) (p : Position)
    (plain : initialised.IsPlain) (asked : List String) (nodes : List (String × Node))
    {f : Arguments → ExceptT CatalogError m α}
    (hasks : ∀ x y, Arguments.Alike asked x y → f x = f y) :
    (b.resolveEntries p nodes >>= fun explicit => f ⟨Dict.ofList explicit, initialised⟩) =
      b.resolveEntries p (Entries.supply initialised.node? nodes asked) >>= fun explicit =>
        f ⟨Dict.ofList explicit, Dict.empty⟩ := by
  rw [resolveEntries_supply b p plain, bind_assoc]
  congr 1
  funext explicit
  rw [pure_bind]
  exact hasks _ _ (Arguments.alike_supply asked explicit initialised)

/-- Supplying the names that a built-in callable asks for balances plain initialised values. -/
theorem balances_supplying [LawfulMonad m] [Files m] [Memory m] (plain : initialised.IsPlain) :
    Balances (BuiltIn.supplying initialised.node?) (⟨BuiltIn.registry, initialised⟩ : Builder m)
      ⟨BuiltIn.registry, Dict.empty⟩ where
  registry := rfl
  call hfound _ _ hdecides p nodes :=
    resolveEntries_supply_bind _ p plain _ nodes fun _ _ =>
      (BuiltIn.asks_of_resolve hfound).decided hdecides

end Builder

/-! ## Using what has been filled -/

namespace Catalog

variable {m : Type → Type} [Monad m] [DataSources m]

/-- Catalogs of which every use is the same computation. -/
structure SameUse (c d : Catalog m) : Prop where
  source : ∀ name, c.source name = d.source name
  validate : ∀ name, c.validate name = d.validate name
  readWith : ∀ name skipValidation, c.readWith name skipValidation = d.readWith name skipValidation
  readAll : c.readAll = d.readAll
  write : ∀ name data, c.write name data = d.write name data

theorem SameUse.symm {c d : Catalog m} (h : SameUse c d) : SameUse d c :=
  ⟨fun name => (h.source name).symm, fun name => (h.validate name).symm,
    fun name skipValidation => (h.readWith name skipValidation).symm, h.readAll.symm,
    fun name data => (h.write name data).symm⟩

theorem SameUse.trans {c d e : Catalog m} (h : SameUse c d) (h' : SameUse d e) : SameUse c e :=
  ⟨fun name => (h.source name).trans (h'.source name),
    fun name => (h.validate name).trans (h'.validate name),
    fun name skipValidation =>
      (h.readWith name skipValidation).trans (h'.readWith name skipValidation),
    h.readAll.trans h'.readAll, fun name data => (h.write name data).trans (h'.write name data)⟩

/-- A catalog with other datasets of the same names, each used like the one that it stands for. -/
structure StandsFor (f : DatasetEntry → DatasetEntry) (c d : Catalog m) : Prop where
  names : d.names = c.names
  entry? : ∀ name, d.entry? name = (c.entry? name).map f
  buildSource : ∀ name entry, c.buildSource name entry = d.buildSource name (f entry)
  validate : ∀ name source entry, c.builder.validate name source entry.validations =
    d.builder.validate name source (f entry).validations

namespace StandsFor

variable {f : DatasetEntry → DatasetEntry} {c d : Catalog m} (h : StandsFor f c d)
include h

omit [DataSources m] in
theorem withSource_eq [LawfulMonad m] {α : Type} (name : String)
    {use use' : DatasetEntry → Source → ExceptT CatalogError m α}
    (huse : ∀ entry source, use entry source = use' (f entry) source) :
    c.withSource name use = d.withSource name use' := by
  have hentry := h.entry? name
  unfold withSource
  cases hfound : c.entry? name with
  | none =>
      rw [hfound] at hentry
      rw [find_of_entry?_eq_none hfound, find_of_entry?_eq_none hentry, liftM_error_bind,
        liftM_error_bind, h.names]
  | some entry =>
      rw [hfound] at hentry
      rw [find_of_entry?_eq_some hfound, find_of_entry?_eq_some hentry, liftM_ok_bind,
        liftM_ok_bind, h.buildSource]
      congr 1
      funext source
      exact huse entry source

theorem readWith_eq [LawfulMonad m] (name : String) (skipValidation : Bool) :
    c.readWith name skipValidation = d.readWith name skipValidation := by
  rw [readWith_eq_withSource, readWith_eq_withSource]
  apply h.withSource_eq
  intro entry source
  unfold fetch
  rw [h.validate]

theorem readNames_eq [LawfulMonad m] (names : List String) :
    c.readNames names = d.readNames names := by
  induction names with
  | nil => rfl
  | cons name rest ih => rw [readNames, readNames, read, read, h.readWith_eq, ih]

/-- Datasets that stand for others are used like them. -/
theorem sameUse [LawfulMonad m] : SameUse c d where
  source name := by
    rw [source_eq_withSource, source_eq_withSource]
    exact h.withSource_eq name fun _ _ => rfl
  validate name := h.withSource_eq name fun entry source => h.validate name source entry
  readWith := h.readWith_eq
  readAll := by
    unfold readAll
    rw [h.names]
    exact h.readNames_eq c.names
  write name data := by
    rw [write_eq_withSource, write_eq_withSource]
    exact h.withSource_eq name fun _ _ => rfl

end StandsFor

variable [LawfulMonad m]

omit [DataSources m] in
/-- Datasets with changed arguments stand for the datasets if the change balances every call. -/
theorem standsFor_mapArgs {change : String → Entries Node → Entries Node} {b b' : Builder m}
    (h : Builder.Balances change b b') (datasets : Dict DatasetEntry) :
    StandsFor (DatasetEntry.mapArgs change) ⟨datasets, b.registry, b.initialised⟩
      ⟨datasets.mapValues fun _ => DatasetEntry.mapArgs change, b'.registry, b'.initialised⟩ where
  names := Dict.keys_mapValues _ datasets
  entry? name := Dict.get?_mapValues _ datasets name
  buildSource name entry := by
    rw [buildSource_eq, buildSource_eq]
    congr 1
    exact Builder.resolve_mapArgs h (Position.root.key name) entry.source.node
  validate name source entry := by
    have houtcomes := Builder.runValidators_mapArgs h
      ((Position.root.key name).key Recipe.validationsKey) source 0 entry.validations
    exact congrArg (· >>= fun outcomes => pure (ValidationReport.mk name outcomes)) houtcomes

variable [Files m] [Memory m]

/-- Initialised values of plain data are exactly missing arguments filled in.  Every use of a
catalog is that of the catalog without initialised values in which every recipe, at every level, has
been given those of the names that its callable asks for and that it does not supply.  Hence names
that no callable asks for make no difference, and to a callable neither does a name that it does not
ask for nor one that is given explicitly, be it as null. -/
theorem initialised_as_arguments (datasets : Dict DatasetEntry) (initialised : Dict Value)
    (plain : initialised.IsPlain) :
    SameUse (⟨datasets, BuiltIn.registry, initialised⟩ : Catalog m)
      ⟨datasets.mapValues fun _ => DatasetEntry.fill initialised.node?, BuiltIn.registry,
        Dict.empty⟩ ∧
    (∀ other : Dict Value, other.IsPlain →
      (∀ name ∈ BuiltIn.allAskedNames, other.get? name = initialised.get? name) →
      SameUse (⟨datasets, BuiltIn.registry, other⟩ : Catalog m)
        ⟨datasets, BuiltIn.registry, initialised⟩) ∧
    (∀ reference factory, (BuiltIn.registry : Registry m).resolveFactory reference = .ok factory →
      ∀ explicit name value,
        explicit.contains name = true ∨ name ∉ BuiltIn.askedNames reference →
        factory ⟨explicit, initialised.insert name value⟩ = factory ⟨explicit, initialised⟩) ∧
    ∀ reference validator,
      (BuiltIn.registry : Registry m).resolveValidator reference = .ok validator →
      ∀ source explicit name value,
        explicit.contains name = true ∨ name ∉ BuiltIn.askedNames reference →
        validator source ⟨explicit, initialised.insert name value⟩ =
          validator source ⟨explicit, initialised⟩ := by
  have hfilled (values : Dict Value) (plain : values.IsPlain) :=
    (standsFor_mapArgs (Builder.balances_supplying (m := m) plain) datasets).sameUse
  refine ⟨?_, ?_, ?_, ?_⟩
  · rw [DatasetEntry.fill_eq_mapArgs]
    exact hfilled initialised plain
  · intro other plain' hsame
    have hsupplying : BuiltIn.supplying other.node? = BuiltIn.supplying initialised.node? := by
      apply BuiltIn.supplying_congr
      intro name hmem
      unfold Dict.node?
      rw [hsame name hmem]
    have hother := hfilled other plain'
    rw [hsupplying] at hother
    exact hother.trans (hfilled initialised plain).symm
  · intro reference factory hfound explicit name value hname
    exact BuiltIn.factory_congr hfound (Arguments.alike_insert hname)
  · intro reference validator hfound source explicit name value hname
    exact BuiltIn.validator_congr hfound source (Arguments.alike_insert hname)

/-- A source in a source, judged by two bounds of which one is given as null. -/
def shelf : Dict DatasetEntry :=
  Dict.ofList [("shelf",
    ⟨⟨"talog.sources.InMemory", [("data", .recipe "talog.sources.InMemory" [])]⟩,
      [⟨"talog.validators.max_length", []⟩, ⟨"talog.validators.min_length", [("min", .null)]⟩]⟩)]

/-- Values for the names that `shelf` lacks, and for two that it does not. -/
def stock : Dict Value :=
  Dict.ofList [("data", .list [.int 1]), ("max", .int 3), ("min", .int 0), ("path", .string "p")]

/-- The same with the arguments that it lacks. -/
def stockedShelf : Dict DatasetEntry :=
  Dict.ofList [("shelf",
    ⟨⟨"talog.sources.InMemory",
        [("data", .recipe "talog.sources.InMemory" [("data", .seq [.int 1])])]⟩,
      [⟨"talog.validators.max_length", [("max", .int 3)]⟩,
        ⟨"talog.validators.min_length", [("min", .null)]⟩]⟩)]

theorem initialised_as_arguments_shelf :
    stock.IsPlain ∧ (stock.insert "other" .null).IsPlain ∧
    SameUse (⟨shelf, BuiltIn.registry, stock⟩ : Catalog (StateM World))
      ⟨stockedShelf, BuiltIn.registry, Dict.empty⟩ ∧
    SameUse (⟨shelf, BuiltIn.registry, stock.insert "other" .null⟩ : Catalog (StateM World))
      ⟨shelf, BuiltIn.registry, stock⟩ := by
  have plain : stock.IsPlain := by decide +kernel
  have plain' : (stock.insert "other" .null).IsPlain := by decide +kernel
  have hfilled : (shelf.mapValues fun _ => DatasetEntry.fill stock.node?) = stockedShelf := rfl
  obtain ⟨hfill, hothers, -, -⟩ :=
    initialised_as_arguments (m := StateM World) shelf stock plain
  rw [hfilled] at hfill
  refine ⟨plain, plain', hfill, hothers _ plain' ?_⟩
  intro name hmem
  have hne : "other" ≠ name := by
    rintro rfl
    exact absurd hmem (by decide)
  rw [Dict.get?_insert, if_neg hne]

end Catalog

end DataCatalog
