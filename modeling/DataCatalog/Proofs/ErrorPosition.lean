import DataCatalog.Proofs.DocumentPosition
import DataCatalog.Proofs.Phases

/-!
# Error positions

An error of an evaluation at a recipe names a position and a callable.  `errors_in_place` says that,
in the document that the catalog was read from, the position leads to the mapping that names the
callable, whichever way the dataset is used; that its recipe is the first one that fails in the
order of evaluation; and that it lies under a validation exactly when the validator is at fault.
-/

set_option autoImplicit false

namespace DataCatalog

namespace Node

theorem itemsOrdered_iff {items : List Node} :
    ItemsOrdered items ↔ ∀ n ∈ items, n.Ordered := by
  induction items with
  | nil => simp [ItemsOrdered]
  | cons n rest ih => simp [ItemsOrdered, ih]

theorem entriesOrdered_iff {entries : Entries Node} :
    EntriesOrdered entries ↔ ∀ name n, (name, n) ∈ entries → n.Ordered := by
  induction entries with
  | nil => simp [EntriesOrdered]
  | cons head rest ih =>
      obtain ⟨k, n⟩ := head
      rw [EntriesOrdered, ih, Entries.forall_mem_cons]

theorem mem_recipes_of_mem_actions {a : Action} {p : Position} {n : Node} (h : a ∈ n.actions p) :
    (a.position, a.recipe) ∈ n.recipes p := by
  obtain ⟨q, r, hmem, rfl | rfl⟩ := exists_recipe_of_mem_actions n h
  · exact hmem
  · exact hmem

end Node

theorem Recipe.mem_recipes_of_mem_judging {a : Action} {p : Position} {r : Recipe}
    (h : a ∈ r.judging p) : (a.position, a.recipe) ∈ r.node.recipes p := by
  rcases List.mem_cons.1 h with rfl | h
  · exact List.mem_append_right _ (List.mem_singleton.2 rfl)
  · rcases List.mem_append.1 h with h | h
    · obtain ⟨q, r', hmem, rfl | rfl⟩ := Node.exists_recipe_of_mem_entryActions r.args h
      · exact List.mem_append_left _ hmem
      · exact List.mem_append_left _ hmem
    · rw [List.mem_singleton.1 h]
      exact List.mem_append_right _ (List.mem_singleton.2 rfl)

namespace Tree

/-- What is read has the keys of every mapping in increasing order. -/
theorem Reads.ordered {t : Tree} {n : Node} (h : t.Reads n) : n.Ordered := by
  induction h with
  | null => exact trivial
  | bool b => exact trivial
  | int same => exact trivial
  | float x => exact trivial
  | string s => exact trivial
  | tagged value ih => exact ih
  | @seq items nodes length each ih =>
      refine Node.itemsOrdered_iff.2 fun n hmem => ?_
      obtain ⟨j, hn⟩ := List.getElem?_of_mem hmem
      have hj : j < items.length := by
        rw [← length]
        exact (List.getElem?_eq_some_iff.1 hn).1
      exact ih j items[j] n (List.getElem?_eq_getElem hj) hn
  | map data keys each ih =>
      refine ⟨keys.ordered, Node.entriesOrdered_iff.2 fun name n hmem => ?_⟩
      obtain ⟨k, t, hentry, hk⟩ := keys.exists_key hmem
      exact ih k t name n hentry hk hmem
  | recipe distinct name none => exact ⟨Entries.ordered_nil, trivial⟩
  | recipeWith distinct name found keys each ih =>
      refine ⟨keys.ordered, Node.entriesOrdered_iff.2 fun name n hmem => ?_⟩
      obtain ⟨k, t, hentry, hk⟩ := keys.exists_key hmem
      exact ih k t name n hentry hk hmem

end Tree

namespace DatasetEntry

theorem ordered_of_parse {name : String} {t : Tree} {entry : DatasetEntry}
    (h : DatasetEntry.parse name t = .ok entry) :
    entry.source.node.Ordered ∧ ∀ r ∈ entry.validations, r.node.Ordered := by
  obtain ⟨source, validators⟩ := Tree.reads_of_dataset h
  refine ⟨source.ordered, fun r hmem => ?_⟩
  obtain ⟨i, hi⟩ := List.getElem?_of_mem hmem
  obtain ⟨list, u, -, -, reads⟩ := validators i r hi
  exact reads.ordered

/-- The actions of an evaluation are where the document names their callables. -/
theorem names_of_mem_evaluation {document t : Tree} {name : String} {entry : DatasetEntry}
    (hchild : document.child? (.key name) = some t) (h : DatasetEntry.parse name t = .ok entry)
    {phase : Phase} {a : Action} (hmem : (phase, a) ∈ entry.evaluation name) :
    document.Names a.position a.recipe.callable := by
  obtain ⟨source, validators⟩ := Tree.reads_of_dataset h
  rcases mem_evaluation hmem with ⟨-, ha⟩ | ⟨i, r, -, hr, ha⟩
  · obtain ⟨d, hposition, hnames⟩ := Tree.names_of_mem_recipes source (Position.root.key name)
      (Node.mem_recipes_of_mem_actions ha)
    rw [hposition]
    exact hnames.step hchild
  · obtain ⟨list, u, hlist, hu, reads⟩ := validators i r hr
    obtain ⟨d, hposition, hnames⟩ := Tree.names_of_mem_recipes reads _
      (Recipe.mem_recipes_of_mem_judging ha)
    rw [hposition]
    exact ((hnames.step hu).step hlist).step hchild

/-- The actions of a validator are the ones under its place in the list. -/
theorem prefix_iff_of_mem_evaluation {name : String} {entry : DatasetEntry} {phase : Phase}
    {a : Action} (hmem : (phase, a) ∈ entry.evaluation name) (i : Nat) :
    ((Position.root.key name).key Recipe.validationsKey).index i <+: a.position ↔
      phase = .validator i := by
  rcases mem_evaluation hmem with ⟨rfl, ha⟩ | ⟨j, r, rfl, -, ha⟩
  · have hnot := Recipe.not_prefix_of_concerns ha (.inl rfl)
      (show Recipe.validationsKey ≠ Recipe.argsKey by decide)
    constructor
    · intro hunder
      exact absurd ((Position.prefix_index _ i).trans hunder) hnot
    · intro heq
      cases heq
  · have hunder := Recipe.prefix_of_mem_judging ha
    constructor
    · intro hi
      rw [Position.index_unique hi hunder]
    · intro heq
      cases heq
      exact hunder

theorem prefix_of_mem_evaluation {name : String} {entry : DatasetEntry} {phase : Phase}
    {a : Action} (hmem : (phase, a) ∈ entry.evaluation name) :
    Position.root.key name <+: a.position := by
  rcases mem_evaluation hmem with ⟨-, ha⟩ | ⟨i, r, -, -, ha⟩
  · exact Node.prefix_of_mem_actions _ _ ha
  · exact ((Position.prefix_key _ _).trans (Position.prefix_index _ i)).trans
      (Recipe.prefix_of_mem_judging ha)

end DatasetEntry

/-- An error at the recipe at `p` with a callable has its place in a document: the position begins
with the name of the dataset and leads to the mapping that names the callable; the actions before
some action of the evaluation succeed, that action is the recipe's and fails with the error, and the
position lies under a validation exactly when the action belongs to its validator. -/
structure Pinpoints {m : Type → Type} (document : Tree) (b : Builder m) (name : String)
    (evaluation : List (Phase × Action)) (events : List Event) (e : CatalogError) (p : Position)
    (callable : String) : Prop where
  below : Position.root.key name <+: p
  names : document.Names p callable
  first : ∃ (built : Position → Value) (before after : List (Phase × Action)) (phase : Phase)
    (a : Action) (performed failed : List Event),
    evaluation = before ++ (phase, a) :: after ∧ a.position = p ∧ a.recipe.callable = callable ∧
      b.PerformsAll built (before.map Prod.snd) performed ∧ b.Fails built a failed e ∧
      events = performed ++ failed ∧
      ∀ i, ((Position.root.key name).key Recipe.validationsKey).index i <+: p ↔
        phase = .validator i

/-- The errors at recipes of an operation on a dataset have their place in a document.  The
operation is given with its record: the same operation on a catalog whose callables leave events. -/
def ErrsInPlace {σ α : Type} (document : Tree) (c : Catalog (StateM σ)) (name : String)
    (phases : DatasetEntry → List (Phase × Action)) (operation : ExceptT CatalogError (StateM σ) α)
    (recorded : ExceptT CatalogError (Recorded (StateM σ)) α) : Prop :=
  ∀ s, operation.run.run s = ((observe recorded s).outcome, (observe recorded s).state) ∧
    ∀ e p callable, (operation.run.run s).1 = .error e → e.site? = some (p, callable) →
      ∃ entry, c.entry? name = some entry ∧
        Pinpoints document c.builder name (phases entry) (observe recorded s).events e p callable

namespace Builder

variable {σ α : Type}

/-- The actions of an evaluation up to the one that fails. -/
theorem Stops.exists_phase {b : Builder (StateM σ)} {built : Position → Value}
    {phases : List (Phase × Action)} {events : List Event} {e : CatalogError}
    (h : b.Stops built (phases.map Prod.snd) events e) :
    ∃ before phase a after performed failed, phases = before ++ (phase, a) :: after ∧
      b.PerformsAll built (before.map Prod.snd) performed ∧ b.Fails built a failed e ∧
      events = performed ++ failed := by
  generalize hactions : phases.map Prod.snd = actions at h
  cases h with
  | @intro before after a performed failed e hperformed hfailed =>
      obtain ⟨front, rest, rfl, rfl, hrest⟩ := List.map_eq_append_iff.1 hactions
      obtain ⟨⟨phase, a'⟩, back, rfl, rfl, -⟩ := List.map_eq_cons_iff.1 hrest
      exact ⟨front, phase, a', back, performed, failed, rfl, hperformed, hfailed, rfl⟩

end Builder

namespace Catalog

variable {σ α : Type}

section Operations

variable {document : Tree} {c : Catalog (StateM σ)} {name : String}
  (parsed : ∀ entry, c.entry? name = some entry →
    ∃ t, document.child? (.key name) = some t ∧ DatasetEntry.parse name t = .ok entry)

include parsed

/-- An operation errs in place when its errors at recipes are those of actions of the evaluation. -/
theorem errsInPlace_of_locates {phases : DatasetEntry → List (Phase × Action)}
    (hphases : ∀ entry, phases entry ⊆ entry.evaluation name)
    {operation : ExceptT CatalogError (StateM σ) α}
    {use : DatasetEntry → Source → ExceptT CatalogError (Recorded (StateM σ)) α}
    (hforget : Recorded.forget (c.recorded.withSource name use) = operation)
    (hlocates : ∀ entry, c.entry? name = some entry → entry.source.node.Ordered →
      (∀ r ∈ entry.validations, r.node.Ordered) → ∀ s, ∃ built,
        c.builder.Locates built ((phases entry).map Prod.snd)
          (observe (c.recorded.withSource name use) s)) :
    ErrsInPlace document c name phases operation (c.recorded.withSource name use) := by
  intro s
  subst hforget
  refine ⟨run_forget _ s, ?_⟩
  intro e p callable herror hsite
  rw [run_forget] at herror
  have hlocated : e.site? ≠ none := by
    rw [hsite]
    exact Option.some_ne_none _
  -- only a dataset that exists gives an error at a recipe, and it was parsed from the document
  obtain ⟨entry, hentry⟩ := exists_entry_of_located herror hlocated
  obtain ⟨t, hchild, hparse⟩ := parsed entry hentry
  obtain ⟨source, validators⟩ := DatasetEntry.ordered_of_parse hparse
  obtain ⟨built, hbuilt⟩ := hlocates entry hentry source validators s
  obtain ⟨before, phase, a, after, performed, failed, hsplit, hperformed, hfailed, hevents⟩ :=
    (hbuilt e herror hlocated).exists_phase
  have hmem : (phase, a) ∈ entry.evaluation name := by
    apply hphases entry
    rw [hsplit]
    exact List.mem_append_right _ List.mem_cons_self
  -- the error names the position and the callable of the action that failed
  have hplace := hfailed.site?_eq.symm.trans hsite
  cases hplace
  exact ⟨entry, hentry, DatasetEntry.prefix_of_mem_evaluation hmem,
    DatasetEntry.names_of_mem_evaluation hchild hparse hmem,
    ⟨built, before, after, phase, a, performed, failed, hsplit, rfl, rfl, hperformed, hfailed,
      hevents, DatasetEntry.prefix_iff_of_mem_evaluation hmem⟩⟩

/-- An operation that only builds the source errs in place. -/
theorem errsInPlace_building {operation : ExceptT CatalogError (StateM σ) α}
    {use : DatasetEntry → Source → ExceptT CatalogError (Recorded (StateM σ)) α}
    (hforget : Recorded.forget (c.recorded.withSource name use) = operation)
    (huse : ∀ entry source, Builder.Unlocated (use entry source)) :
    ErrsInPlace document c name (·.building name) operation (c.recorded.withSource name use) := by
  refine errsInPlace_of_locates parsed (fun entry => entry.building_subset_evaluation name)
    hforget ?_
  intro entry hentry source _ s
  exact c.exists_locates_building hentry source (huse entry) s

/-- An operation that builds the source and validates it errs in place. -/
theorem errsInPlace_evaluation {operation : ExceptT CatalogError (StateM σ) α}
    {use : Source → ValidationReport → ExceptT CatalogError (Recorded (StateM σ)) α}
    (hforget : Recorded.forget (c.recorded.withSource name fun entry source =>
      c.recorded.builder.validate name source entry.validations >>= use source) = operation)
    (huse : ∀ source report, Builder.Unlocated (use source report)) :
    ErrsInPlace document c name (·.evaluation name) operation
      (c.recorded.withSource name fun entry source =>
        c.recorded.builder.validate name source entry.validations >>= use source) := by
  refine errsInPlace_of_locates parsed (fun entry => List.Subset.refl _) hforget ?_
  intro entry hentry source validators s
  exact c.exists_locates_evaluation hentry source validators huse s

theorem errsInPlace_source :
    ErrsInPlace document c name (·.building name) (c.source name) (c.recorded.source name) := by
  have hforget := forget_source c name
  rw [source_eq_withSource c.recorded] at hforget ⊢
  exact errsInPlace_building parsed hforget fun _ source => Builder.unlocated_pure source

theorem errsInPlace_validate :
    ErrsInPlace document c name (·.evaluation name) (c.validate name)
      (c.recorded.validate name) := by
  have hshape : c.recorded.validate name = c.recorded.withSource name fun entry source =>
      c.recorded.builder.validate name source entry.validations >>= fun report => pure report := by
    simp [validate, withSource]
  have hforget := forget_validate c name
  rw [hshape] at hforget ⊢
  exact errsInPlace_evaluation parsed hforget fun _ report => Builder.unlocated_pure report

variable [DataSources (StateM σ)]

theorem errsInPlace_read :
    ErrsInPlace document c name (·.evaluation name) (c.read name) (c.recorded.read name) := by
  have hforget := forget_readWith c name false
  unfold read
  rw [readWith_eq_withSource c.recorded] at hforget ⊢
  exact errsInPlace_evaluation parsed hforget fun source report =>
    unlocated_deliver name source report

theorem errsInPlace_readWith_true :
    ErrsInPlace document c name (·.building name) (c.readWith name true)
      (c.recorded.readWith name true) := by
  have hforget := forget_readWith c name true
  rw [readWith_eq_withSource c.recorded] at hforget ⊢
  exact errsInPlace_building parsed hforget fun _ source => Builder.unlocated_adapt (fun _ => rfl) _

theorem errsInPlace_write (data : Value) :
    ErrsInPlace document c name (·.building name) (c.write name data)
      (c.recorded.write name data) := by
  have hforget := forget_write c name data
  rw [write_eq_withSource c.recorded] at hforget ⊢
  exact errsInPlace_building parsed hforget fun _ source => unlocated_store name data source

end Operations

/-- Whatever a dataset of a catalog is used for, its errors at recipes have their place in the
document that the catalog was read from. -/
theorem errors_in_place [DataSources (StateM σ)] {document : Tree} {registry : Registry (StateM σ)}
    {c : Catalog (StateM σ)} (accepted : ofDocument document registry = .ok c)
    (distinct : ∀ entries, document.mapping? = some entries →
      (entries.map fun entry => entry.1.text?).Nodup)
    (initialised : Dict Value) (name : String) (data : Value) :
    let offering := c.withInitialised initialised
    ErrsInPlace document offering name (·.building name) (offering.source name)
        (offering.recorded.source name) ∧
      ErrsInPlace document offering name (·.evaluation name) (offering.validate name)
        (offering.recorded.validate name) ∧
      ErrsInPlace document offering name (·.evaluation name) (offering.read name)
        (offering.recorded.read name) ∧
      ErrsInPlace document offering name (·.building name) (offering.readWith name true)
        (offering.recorded.readWith name true) ∧
      ErrsInPlace document offering name (·.building name) (offering.write name data)
        (offering.recorded.write name data) := by
  intro offering
  have parsed (entry : DatasetEntry) (hentry : offering.entry? name = some entry) :
      ∃ t, document.child? (.key name) = some t ∧ DatasetEntry.parse name t = .ok entry :=
    dataset_of_entry? accepted distinct hentry
  exact ⟨errsInPlace_source parsed, errsInPlace_validate parsed, errsInPlace_read parsed,
    errsInPlace_readWith_true parsed, errsInPlace_write parsed data⟩

/-- A factory that gives a source and a validator that is content. -/
def ledgerRegistry : Registry (StateM Nat) :=
  Registry.empty.registerAll
    [("sales.Table", .factory fun _ => pure (.source ⟨0, .memory⟩)),
      ("check", .validator fun _ _ => pure .pass)]

/-- A dataset with one validator, under a tag; the list that is its argument 2 holds a recipe whose
callable is not registered. -/
def ledger : Tree :=
  .map [(.string "sales", .map
    [(.string "callable", .string " sales.Table "),
      (.string "validations", .seq [.tagged "!strict" (.map
        [(.string "callable", .string "check"),
          (.string "args", .map
            [(.int 2, .seq [.map [(.string "callable", .string "missing")]])])])])])]

def ledgerCatalog : Catalog (StateM Nat) :=
  ⟨Dict.empty.insert "sales" ⟨⟨"sales.Table", []⟩,
    [⟨"check", [("2", .seq [.recipe "missing" []])]⟩]⟩, ledgerRegistry, Dict.empty⟩

/-- The missing callable is found again in the document, inside the argument of the validator. -/
theorem errors_in_place_ledger :
    let p : Position :=
      [.key "sales", .key "validations", .index 0, .key "args", .key "2", .index 0]
    let e : CatalogError := .reference p (.unknownAttribute "missing" none "missing")
    ofDocument ledger ledgerRegistry = .ok ledgerCatalog ∧
      (∀ entries, ledger.mapping? = some entries →
        (entries.map fun entry => entry.1.text?).Nodup) ∧
      ((ledgerCatalog.withInitialised Dict.empty).validate "sales").run.run 0 = (.error e, 0) ∧
      ∃ entry events, ledgerCatalog.entry? "sales" = some entry ∧
        Pinpoints ledger ledgerCatalog.builder "sales" (entry.evaluation "sales") events e p
          "missing" := by
  intro p e
  have accepted : ofDocument ledger ledgerRegistry = .ok ledgerCatalog := rfl
  have distinct : ∀ entries, ledger.mapping? = some entries →
      (entries.map fun entry => entry.1.text?).Nodup := by
    intro entries h
    cases h
    exact List.nodup_singleton _
  have hrun : ((ledgerCatalog.withInitialised Dict.empty).validate "sales").run.run 0 =
      (.error e, 0) := rfl
  obtain ⟨-, hvalidate, -⟩ := @errors_in_place Nat ⟨fun _ => pure .null, fun _ _ => pure ()⟩
    ledger ledgerRegistry ledgerCatalog accepted distinct Dict.empty "sales" .null
  obtain ⟨entry, hentry, hplace⟩ := (hvalidate 0).2 e p "missing" (by rw [hrun]) rfl
  exact ⟨accepted, distinct, hrun, entry, _, hentry, hplace⟩

end Catalog

end DataCatalog
