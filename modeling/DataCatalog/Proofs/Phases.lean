import DataCatalog.Proofs.Evaluation
import DataCatalog.Proofs.FetchGate

/-!
# The evaluation of a dataset

A dataset is evaluated in phases: its source is built, then one validator after the other is found,
has its arguments evaluated and judges.  `DatasetEntry.building` and `DatasetEntry.evaluation` list
the actions of building alone and of all phases.

Main statements: `follows_runValidators` says that validating follows the actions of the validators,
and `exists_locates_withSource` that whatever is done with the source of a dataset adds no error at
a recipe to those of the evaluation.
-/

set_option autoImplicit false

namespace DataCatalog

/-- A part of the evaluation of a dataset. -/
inductive Phase where
  /-- The source is built. -/
  | source
  /-- The validator of an index judges, or is prepared to. -/
  | validator (i : Nat)
  deriving DecidableEq, Repr

namespace Recipe

/-- The actions of the validator at a position, in order. -/
def judging (p : Position) (r : Recipe) : List Action :=
  .find .validator p r :: (Node.entryActions (p.key argsKey) r.args ++ [.judge p r])

/-- The actions of the validators from an index on, each with its phase. -/
def judgings (p : Position) (i : Nat) : List Recipe → List (Phase × Action)
  | [] => []
  | r :: rest =>
      (r.judging (p.index i)).map (fun a => (.validator i, a)) ++ judgings p (i + 1) rest

theorem mem_judgings {p : Position} {i : Nat} {validations : List Recipe} {phase : Phase}
    {a : Action} (h : (phase, a) ∈ judgings p i validations) :
    ∃ j r, phase = .validator (i + j) ∧ validations[j]? = some r ∧
      a ∈ r.judging (p.index (i + j)) := by
  induction validations generalizing i with
  | nil => simp [judgings] at h
  | cons r rest ih =>
      rcases List.mem_append.1 h with h | h
      · obtain ⟨action, hmem, heq⟩ := List.mem_map.1 h
        cases heq
        exact ⟨0, r, rfl, rfl, hmem⟩
      · obtain ⟨j, r', hphase, hr', hmem⟩ := ih h
        have heq : i + 1 + j = i + (j + 1) := by omega
        rw [heq] at hphase hmem
        exact ⟨j + 1, r', hphase, hr', hmem⟩

end Recipe

namespace DatasetEntry

/-- The actions that build the source of the dataset of a name. -/
def building (name : String) (entry : DatasetEntry) : List (Phase × Action) :=
  (entry.source.node.actions (Position.root.key name)).map fun a => (.source, a)

/-- The actions that evaluate the dataset of a name: its source, then its validators. -/
def evaluation (name : String) (entry : DatasetEntry) : List (Phase × Action) :=
  entry.building name ++
    Recipe.judgings ((Position.root.key name).key Recipe.validationsKey) 0 entry.validations

theorem mem_building {name : String} {entry : DatasetEntry} {phase : Phase} {a : Action}
    (h : (phase, a) ∈ entry.building name) :
    phase = .source ∧ a ∈ entry.source.node.actions (Position.root.key name) := by
  obtain ⟨action, hmem, heq⟩ := List.mem_map.1 h
  cases heq
  exact ⟨rfl, hmem⟩

theorem mem_evaluation {name : String} {entry : DatasetEntry} {phase : Phase} {a : Action}
    (h : (phase, a) ∈ entry.evaluation name) :
    (phase = .source ∧ a ∈ entry.source.node.actions (Position.root.key name)) ∨
      ∃ i r, phase = .validator i ∧ entry.validations[i]? = some r ∧
        a ∈ r.judging (((Position.root.key name).key Recipe.validationsKey).index i) := by
  rcases List.mem_append.1 h with h | h
  · exact .inl (mem_building h)
  · obtain ⟨i, r, hphase, hr, hmem⟩ := Recipe.mem_judgings h
    rw [Nat.zero_add] at hphase hmem
    exact .inr ⟨i, r, hphase, hr, hmem⟩

theorem building_subset_evaluation (name : String) (entry : DatasetEntry) :
    entry.building name ⊆ entry.evaluation name :=
  List.subset_append_left _ _

theorem map_snd_building (name : String) (entry : DatasetEntry) :
    (entry.building name).map Prod.snd = entry.source.node.actions (Position.root.key name) := by
  unfold building
  rw [List.map_map]
  exact List.map_id _

theorem map_snd_evaluation (name : String) (entry : DatasetEntry) :
    (entry.evaluation name).map Prod.snd =
      entry.source.node.actions (Position.root.key name) ++
        (Recipe.judgings ((Position.root.key name).key Recipe.validationsKey) 0
          entry.validations).map Prod.snd := by
  unfold evaluation
  rw [List.map_append, map_snd_building]

end DatasetEntry

/-- The actions of a recipe are at its position or among its arguments. -/
theorem Recipe.concerns_of_mem_actions {r : Recipe} {p : Position} {a : Action}
    (h : a ∈ r.node.actions p) {q : Position} (hq : a.Concerns q) :
    q = p ∨ p.key argsKey <+: q := by
  have hposition : a.position = p ∨ p.key argsKey <+: a.position := by
    rcases List.mem_cons.1 h with rfl | h
    · exact .inl rfl
    · rcases List.mem_append.1 h with h | h
      · exact .inr (Node.prefix_position_of_mem_entryActions h)
      · exact .inl (List.mem_singleton.1 h ▸ rfl)
  rcases hposition with hself | hbelow
  · unfold Action.Concerns at hq
    rwa [hself] at hq
  · exact .inr (hbelow.trans hq.isPrefix)

/-- The actions of a recipe have nothing to do with what lies under another of its keys. -/
theorem Recipe.not_prefix_of_concerns {r : Recipe} {p : Position} {a : Action}
    (h : a ∈ r.node.actions p) {q : Position} (hq : a.Concerns q) {k : String} (hk : k ≠ argsKey) :
    ¬p.key k <+: q := by
  intro hunder
  rcases Recipe.concerns_of_mem_actions h hq with rfl | hargs
  · exact Position.not_step_prefix _ _ hunder
  · exact hk (Position.key_unique hunder hargs)

theorem Recipe.prefix_of_mem_judging {r : Recipe} {p : Position} {a : Action}
    (h : a ∈ r.judging p) : p <+: a.position := by
  rcases List.mem_cons.1 h with rfl | h
  · exact List.prefix_refl _
  · rcases List.mem_append.1 h with h | h
    · exact (p.prefix_key _).trans (Node.prefix_position_of_mem_entryActions h)
    · exact List.mem_singleton.1 h ▸ List.prefix_refl _

namespace Builder

variable {σ α β : Type}

/-- A validator that is given the arguments of its recipe performs its judgement. -/
theorem follows_judge {b : Builder (StateM σ)} {built : Position → Value} {p : Position}
    {r : Recipe} {args : Arguments} (hargs : args = b.arguments built p r)
    (run : Source → Arguments → ExceptT CallError (StateM σ) Verdict) (source : Source) (t : σ) :
    b.Follows built [.judge p r]
      (observe (ExceptT.lift (judge (Recorded.validator r.callable run) source args)) t)
      fun _ => True := by
  subst hargs
  rw [observe_judge]
  exact ⟨trivial, .singleton .judge⟩

/-- Resolving the arguments of a recipe follows the actions in them and gives what they build. -/
theorem exists_follows_resolveArgs (b : Builder (StateM σ)) (p : Position) {r : Recipe}
    (ordered : r.node.Ordered) (built : Position → Value) (s : σ) :
    ∃ built', (∀ q, ¬p <+: q → built' q = built q) ∧
      b.Follows built' (Node.entryActions (p.key Recipe.argsKey) r.args)
        (observe (b.recorded.resolveArgs p r) s) (· = b.arguments built' p r) := by
  obtain ⟨built', hframe, hargs⟩ :=
    follows_resolveEntries b (p.key Recipe.argsKey) r.args ordered.1 ordered.2 built s
  refine ⟨built', ?_, ?_⟩
  · intro q hq
    exact hframe q fun k _ hk => hq (((p.prefix_key _).trans (Position.prefix_key _ k)).trans hk)
  · refine hargs.map (fun explicit => (⟨Dict.ofList explicit, b.initialised⟩ : Arguments)) ?_
    intro explicit hexplicit
    subst hexplicit
    rfl

/-- A validator that was found follows the actions in its arguments and judges; what comes next goes
on from there, as long as it leaves what was built for the validator as it is. -/
theorem exists_follows_validator {b : Builder (StateM σ)} {p : Position} {r : Recipe}
    (ordered : r.node.Ordered) (run : Source → Arguments → ExceptT CallError (StateM σ) Verdict)
    (source : Source) {next : Verdict → ExceptT CatalogError (Recorded (StateM σ)) α}
    {later : List Action} {R : α → Prop} {Kept : Position → Prop} (kept : ∀ q, p <+: q → Kept q)
    (hnext : ∀ (verdict : Verdict) (built : Position → Value) (t : σ),
      ∃ built', (∀ q, Kept q → built' q = built q) ∧
        b.Follows built' later (observe (next verdict) t) R)
    (built : Position → Value) (s : σ) :
    ∃ built', (∀ q, ¬p <+: q → Kept q → built' q = built q) ∧
      b.Follows built'
        (Node.entryActions (p.key Recipe.argsKey) r.args ++ ([.judge p r] ++ later))
        (observe (b.recorded.resolveArgs p r >>= fun args =>
          ExceptT.lift (judge (Recorded.validator r.callable run) source args) >>= next) s) R := by
  obtain ⟨built₁, hframe₁, hargs⟩ := exists_follows_resolveArgs b p ordered built s
  refine exists_follows_bind hargs (fun q hq _ => hframe₁ q hq) ?_
  intro args t hgiven
  have hlater (verdict : Verdict) (u : σ) : ∃ built', (∀ q, Kept q → built' q = built₁ q) ∧
      (∀ a ∈ [Action.judge p r], Agree built₁ built' a) ∧
      b.Follows built' later (observe (next verdict) u) R := by
    obtain ⟨built₂, hframe₂, hrest⟩ := hnext verdict built₁ u
    refine ⟨built₂, hframe₂, ?_, hrest⟩
    intro a hmem q hq
    rw [List.mem_singleton.1 hmem] at hq
    exact (hframe₂ q (kept q hq.isPrefix)).symm
  obtain ⟨built₂, hframe₂, hjudged⟩ := exists_follows_bind
    (follows_judge hgiven run source t) (fun _ _ => rfl) fun verdict u _ => hlater verdict u
  refine ⟨built₂, ?_, ?_, hjudged⟩
  · intro q hq hkept
    rw [hframe₂ q hkept, hframe₁ q hq]
  · intro a hmem q hq
    have hbelow := Node.prefix_of_concerns_entryActions hmem hq
    exact (hframe₂ q (kept q ((Position.prefix_key _ _).trans hbelow))).symm

/-- Validating follows the actions of the validators one by one. -/
theorem follows_runValidators (b : Builder (StateM σ)) (p : Position) (source : Source) (i : Nat)
    (validations : List Recipe) (ordered : ∀ r ∈ validations, r.node.Ordered)
    (built : Position → Value) (s : σ) :
    ∃ built', (∀ q, (∀ j, i ≤ j → ¬p.index j <+: q) → built' q = built q) ∧
      b.Follows built' ((Recipe.judgings p i validations).map Prod.snd)
        (observe (b.recorded.runValidators p source i validations) s) fun _ => True := by
  induction validations generalizing i built s with
  | nil => exact ⟨built, fun q _ => rfl, .pure trivial⟩
  | cons r rest ih =>
      have hlist : (Recipe.judgings p i (r :: rest)).map Prod.snd =
          [.find .validator (p.index i) r] ++
            (Node.entryActions ((p.index i).key Recipe.argsKey) r.args ++
              ([.judge (p.index i) r] ++ (Recipe.judgings p (i + 1) rest).map Prod.snd)) := by
        simp [Recipe.judgings, Recipe.judging, Function.comp_def]
      rw [hlist]
      simp only [runValidators]
      rw [registry_recorded, Registry.resolveValidator_recorded]
      cases hfound : b.registry.resolveValidator r.callable with
      | error e =>
          have hfails : b.Fails built (.find .validator (p.index i) r) []
              (.reference (p.index i) e) := .validator hfound
          exact ⟨built, fun _ _ => rfl, hfails.stops.append_right _⟩
      | ok run =>
          -- the later validators lie under later indices
          have hkept : ∀ q, p.index i <+: q → ∀ j, i + 1 ≤ j → ¬p.index j <+: q := by
            intro q hq j hle hj
            have hij := Position.index_unique hq hj
            omega
          have hnext (verdict : Verdict) (built : Position → Value) (t : σ) : ∃ built',
              (∀ q, (∀ j, i + 1 ≤ j → ¬p.index j <+: q) → built' q = built q) ∧
              b.Follows built' ((Recipe.judgings p (i + 1) rest).map Prod.snd)
                (observe (b.recorded.runValidators p source (i + 1) rest >>= fun outcomes =>
                  pure (⟨i, r.callable, verdict⟩ :: outcomes)) t) fun _ => True := by
            obtain ⟨built', hframe, hrest⟩ :=
              ih (i + 1) (fun r' hmem => ordered r' (List.mem_cons_of_mem _ hmem)) built t
            exact ⟨built', hframe, hrest.map _ fun _ _ => trivial⟩
          obtain ⟨built', hframe, hbody⟩ := exists_follows_validator
            (ordered r List.mem_cons_self) run source hkept hnext built s
          have hfind : b.Performs built' (.find .validator (p.index i) r) [] := .validator hfound
          refine ⟨built', ?_, hbody.after (.singleton hfind)⟩
          intro q hq
          exact hframe q (hq i (Nat.le_refl i)) fun j hle => hq j (by omega)

end Builder

/-! ## Errors at recipes -/

namespace CatalogError

/-- The position and the callable that an error names, if it is about a recipe's callable. -/
def site? : CatalogError → Option (Position × String)
  | .reference p e => some (p, e.reference)
  | .invocation p callable _ => some (p, callable)
  | _ => none

end CatalogError

namespace Registry

variable {m : Type → Type}

theorem reference_of_resolve {registry : Registry m} {reference : String} {e : ReferenceError}
    (h : registry.resolve reference = .error e) : e.reference = reference := by
  unfold resolve at h
  split at h
  · split at h
    · cases h
    · dsimp only at h
      split at h
      · cases h
        rfl
      · split at h
        · cases h
          rfl
        · cases h
          rfl
  · cases h
    rfl

theorem reference_of_resolveFactory {registry : Registry m} {reference : String}
    {e : ReferenceError} (h : registry.resolveFactory reference = .error e) :
    e.reference = reference := by
  unfold resolveFactory at h
  split at h
  · cases h
  · cases h
    rfl
  · rename_i e' he'
    cases h
    exact reference_of_resolve he'

theorem reference_of_resolveValidator {registry : Registry m} {reference : String}
    {e : ReferenceError} (h : registry.resolveValidator reference = .error e) :
    e.reference = reference := by
  unfold resolveValidator at h
  split at h
  · cases h
  · cases h
    rfl
  · rename_i e' he'
    cases h
    exact reference_of_resolve he'

end Registry

namespace Builder

variable {σ α β : Type}

/-- The error of an action names the position and the callable of the action's recipe. -/
theorem Fails.site?_eq {m : Type → Type} {b : Builder m} {built : Position → Value} {a : Action}
    {events : List Event} {e : CatalogError} (h : b.Fails built a events e) :
    e.site? = some (a.position, a.recipe.callable) := by
  cases h with
  | @factory p r e missing =>
      show some (p, e.reference) = some (p, r.callable)
      rw [Registry.reference_of_resolveFactory missing]
  | @validator p r e missing =>
      show some (p, e.reference) = some (p, r.callable)
      rw [Registry.reference_of_resolveValidator missing]
  | call => rfl

/-- A run whose errors at recipes are those of actions. -/
def Locates {m : Type → Type} (b : Builder m) (built : Position → Value) (actions : List Action)
    (run : Run σ CatalogError α) : Prop :=
  ∀ e, run.outcome = .error e → e.site? ≠ none → b.Stops built actions run.events e

/-- A computation that gives no error at a recipe. -/
def Unlocated (x : ExceptT CatalogError (Recorded (StateM σ)) α) : Prop :=
  ∀ s e, (observe x s).outcome = .error e → e.site? = none

variable {b : Builder (StateM σ)} {built : Position → Value}

theorem Unlocated.locates {x : ExceptT CatalogError (Recorded (StateM σ)) α} (h : Unlocated x)
    (actions : List Action) (s : σ) : b.Locates built actions (observe x s) :=
  fun e houtcome hsite => absurd (h s e houtcome) hsite

theorem unlocated_pure (a : α) :
    Unlocated (pure a : ExceptT CatalogError (Recorded (StateM σ)) α) := by
  intro s e he
  cases he

theorem unlocated_throw {e : CatalogError} (h : e.site? = none) :
    Unlocated (throw e : ExceptT CatalogError (Recorded (StateM σ)) α) := by
  intro s e' he
  cases he
  exact h

theorem unlocated_adapt {ε : Type} {wrap : ε → CatalogError} (h : ∀ e, (wrap e).site? = none)
    (x : ExceptT ε (Recorded (StateM σ)) α) : Unlocated (ExceptT.adapt wrap x) := by
  intro s e he
  rw [observe_adapt] at he
  cases hout : (observe x s).outcome with
  | ok a =>
      rw [hout] at he
      cases he
  | error failure =>
      rw [hout] at he
      cases he
      exact h failure

/-- The errors at recipes of two computations are those of the actions of the first, and, once they
are performed, those of the second. -/
theorem exists_locates_bind {x : ExceptT CatalogError (Recorded (StateM σ)) α}
    {f : α → ExceptT CatalogError (Recorded (StateM σ)) β} {actions later : List Action} {s : σ}
    {R : α → Prop} {Q : (Position → Value) → Prop}
    (hx : b.Follows built actions (observe x s) R) (hQ : Q built)
    (hf : ∀ a t, R a → ∃ built', Q built' ∧ (∀ action ∈ actions, Agree built built' action) ∧
      b.Locates built' later (observe (f a) t)) :
    ∃ built', Q built' ∧ b.Locates built' (actions ++ later) (observe (x >>= f) s) := by
  rcases hrun : observe x s with ⟨outcome, events, t⟩
  rw [hrun] at hx
  cases outcome with
  | error e =>
      refine ⟨built, hQ, ?_⟩
      intro e' he' _
      rw [observe_bind_error f hrun] at he' ⊢
      cases he'
      exact Stops.append_right hx later
  | ok a =>
      obtain ⟨hresult, hperformed⟩ := hx
      obtain ⟨built', hQ', hagree, hlater⟩ := hf a t hresult
      refine ⟨built', hQ', ?_⟩
      intro e he hsite
      rw [observe_bind_ok f hrun] at he ⊢
      exact (hlater e he hsite).append_left (hperformed.congr hagree)

/-- What gives no error at a recipe adds none to those of the actions before it. -/
theorem Follows.locates_bind {x : ExceptT CatalogError (Recorded (StateM σ)) α}
    {f : α → ExceptT CatalogError (Recorded (StateM σ)) β} {actions : List Action} {s : σ}
    {R : α → Prop} (hx : b.Follows built actions (observe x s) R) (hf : ∀ a, Unlocated (f a)) :
    b.Locates built actions (observe (x >>= f) s) := by
  obtain ⟨built', rfl, hlocates⟩ : ∃ built', built' = built ∧
      b.Locates built' (actions ++ []) (observe (x >>= f) s) :=
    exists_locates_bind hx rfl fun a t _ =>
      ⟨built, rfl, fun _ _ _ _ => rfl, (hf a).locates [] t⟩
  rwa [List.append_nil] at hlocates

end Builder

namespace Catalog

section Sources

variable {m : Type → Type} [Monad m] {α : Type}

/-- Builds the source of a dataset and does something with it. -/
def withSource (c : Catalog m) (name : String)
    (use : DatasetEntry → Source → ExceptT CatalogError m α) : ExceptT CatalogError m α := do
  let entry ← c.find name
  let source ← c.buildSource name entry
  use entry source

/-- What is built for a dataset, which is to be a source. -/
def asSource (name callable : String) : Value → ExceptT CatalogError m Source
  | .source source => pure source
  | other => throw (.notADataSource name callable other.kind)

theorem buildSource_eq (c : Catalog m) (name : String) (entry : DatasetEntry) :
    c.buildSource name entry =
      c.builder.build (Position.root.key name) entry.source >>=
        asSource name entry.source.callable :=
  rfl

/-- What reading does with the source of a dataset. -/
def fetch [DataSources m] (c : Catalog m) (name : String) (skipValidation : Bool)
    (entry : DatasetEntry) (source : Source) : ExceptT CatalogError m Value :=
  if skipValidation then ExceptT.adapt (.sourceRead name) (DataSources.read source)
  else c.builder.validate name source entry.validations >>= deliver name source

/-- What writing does with the source of a dataset. -/
def store [DataSources m] (name : String) (data : Value) (source : Source) :
    ExceptT CatalogError m Unit :=
  if source.writable then ExceptT.adapt (.sourceWrite name) (DataSources.write source data)
  else throw (.notWriteable name)

variable [LawfulMonad m]

theorem source_eq_withSource (c : Catalog m) (name : String) :
    c.source name = c.withSource name fun _ source => pure source := by
  simp [source, withSource]

theorem readWith_eq_withSource [DataSources m] (c : Catalog m) (name : String)
    (skipValidation : Bool) :
    c.readWith name skipValidation = c.withSource name (c.fetch name skipValidation) := by
  unfold readWith withSource
  congr 1
  funext entry
  congr 1
  funext source
  cases skipValidation with
  | true => simp [fetch]
  | false =>
      simp only [fetch, Bool.not_false, if_true, Bool.false_eq_true, if_false]
      congr 1
      funext report
      unfold deliver
      cases report.result with
      | ok _ => rfl
      | error e => simp

theorem write_eq_withSource [DataSources m] (c : Catalog m) (name : String) (data : Value) :
    c.write name data = c.withSource name fun _ source => store name data source := by
  simp [write, source, withSource, store]

end Sources

variable {σ α : Type}

open Builder

/-- The errors at recipes of a use of a dataset are those of building its source and of what is
done with it. -/
theorem exists_locates_withSource (c : Catalog (StateM σ)) {name : String} {entry : DatasetEntry}
    (found : c.entry? name = some entry) (ordered : entry.source.node.Ordered)
    {later : List Action}
    {use : DatasetEntry → Source → ExceptT CatalogError (Recorded (StateM σ)) α}
    (huse : ∀ (built : Position → Value) (source : Source) (t : σ), ∃ built',
      (∀ q, ¬(Position.root.key name).key Recipe.validationsKey <+: q → built' q = built q) ∧
        c.builder.Locates built' later (observe (use entry source) t)) (s : σ) :
    ∃ built, c.builder.Locates built
      (entry.source.node.actions (Position.root.key name) ++ later)
      (observe (c.recorded.withSource name use) s) := by
  have hfind : c.recorded.find name = .ok entry := find_of_entry?_eq_some found
  unfold withSource
  rw [hfind, liftM_ok_bind, buildSource_eq, bind_assoc]
  obtain ⟨built, -, hbuild⟩ :=
    follows_resolve c.builder (Position.root.key name) entry.source.node ordered (fun _ => .null) s
  have hrest (v : Value) (t : σ) : ∃ built', True ∧
      (∀ a ∈ entry.source.node.actions (Position.root.key name), Agree built built' a) ∧
      c.builder.Locates built' later
        (observe (asSource name entry.source.callable v >>= use entry) t) := by
    cases v with
    | source source =>
        unfold asSource
        rw [pure_bind]
        -- the validators lie under another key than the arguments of the source
        obtain ⟨built', hframe, hlocates⟩ := huse built source t
        refine ⟨built', trivial, ?_, hlocates⟩
        intro a hmem q hq
        exact (hframe q (Recipe.not_prefix_of_concerns hmem hq (by decide))).symm
    | _ =>
        -- what was built is no source; the error names the dataset and no position
        exact ⟨built, trivial, fun _ _ _ _ => rfl, Unlocated.locates (unlocated_throw rfl) later t⟩
  obtain ⟨built', -, hlocates⟩ :=
    exists_locates_bind hbuild trivial fun v t _ => hrest v t
  exact ⟨built', hlocates⟩

/-- What is done with a source and gives no error at a recipe leaves those of building it. -/
theorem exists_locates_building (c : Catalog (StateM σ)) {name : String} {entry : DatasetEntry}
    (found : c.entry? name = some entry) (ordered : entry.source.node.Ordered)
    {use : DatasetEntry → Source → ExceptT CatalogError (Recorded (StateM σ)) α}
    (huse : ∀ source, Unlocated (use entry source)) (s : σ) :
    ∃ built, c.builder.Locates built ((entry.building name).map Prod.snd)
      (observe (c.recorded.withSource name use) s) := by
  obtain ⟨built, hlocates⟩ := c.exists_locates_withSource found ordered
    (fun built source t => ⟨built, fun _ _ => rfl, (huse source).locates [] t⟩) s
  rw [List.append_nil] at hlocates
  rw [DatasetEntry.map_snd_building]
  exact ⟨built, hlocates⟩

/-- Validating a source and then doing something that gives no error at a recipe leaves the errors
of the evaluation. -/
theorem exists_locates_evaluation (c : Catalog (StateM σ)) {name : String} {entry : DatasetEntry}
    (found : c.entry? name = some entry) (ordered : entry.source.node.Ordered)
    (validators : ∀ r ∈ entry.validations, r.node.Ordered)
    {use : Source → ValidationReport → ExceptT CatalogError (Recorded (StateM σ)) α}
    (huse : ∀ source report, Unlocated (use source report)) (s : σ) :
    ∃ built, c.builder.Locates built ((entry.evaluation name).map Prod.snd)
      (observe (c.recorded.withSource name fun entry source =>
        c.recorded.builder.validate name source entry.validations >>= use source) s) := by
  rw [DatasetEntry.map_snd_evaluation]
  refine c.exists_locates_withSource found ordered (fun built source t => ?_) s
  obtain ⟨built', hframe, hjudged⟩ := follows_runValidators c.builder
    ((Position.root.key name).key Recipe.validationsKey) source 0 entry.validations validators
    built t
  refine ⟨built', ?_, ?_⟩
  · intro q hq
    exact hframe q fun j _ hj => hq ((Position.prefix_index _ j).trans hj)
  · unfold Builder.validate
    rw [bind_assoc]
    apply hjudged.locates_bind
    intro outcomes
    rw [pure_bind]
    exact huse source ⟨name, outcomes⟩

theorem unlocated_deliver [DataSources (StateM σ)] (name : String) (source : Source)
    (report : ValidationReport) :
    Unlocated (deliver name source report : ExceptT CatalogError (Recorded (StateM σ)) Value) := by
  unfold deliver
  cases report.result with
  | ok _ => exact unlocated_adapt (fun _ => rfl) _
  | error e => exact unlocated_throw rfl

theorem unlocated_store [DataSources (StateM σ)] (name : String) (data : Value) (source : Source) :
    Unlocated (store name data source : ExceptT CatalogError (Recorded (StateM σ)) Unit) := by
  unfold store
  split
  · exact unlocated_adapt (fun _ => rfl) _
  · exact unlocated_throw rfl

/-- An error at a recipe comes from a dataset of the catalog. -/
theorem exists_entry_of_located {c : Catalog (StateM σ)} {name : String}
    {use : DatasetEntry → Source → ExceptT CatalogError (Recorded (StateM σ)) α} {s : σ}
    {e : CatalogError} (h : (observe (c.recorded.withSource name use) s).outcome = .error e)
    (hsite : e.site? ≠ none) : ∃ entry, c.entry? name = some entry := by
  cases hentry : c.entry? name with
  | some entry => exact ⟨entry, rfl⟩
  | none =>
      have hfind : c.recorded.find name = .error (.unknownDataset name c.recorded.names) :=
        find_of_entry?_eq_none hentry
      unfold withSource at h
      rw [hfind, liftM_error_bind, observe_throw] at h
      cases h
      exact absurd rfl hsite

end Catalog

end DataCatalog
