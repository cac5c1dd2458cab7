import DataCatalog.Catalog
import DataCatalog.Proofs.Entries

/-!
# Recorded runs of a catalog

`Recorded m` is the monad `m` of a host with a record of what was done: the callables that ran, with
their arguments and outcomes, and the accesses of the catalog itself to a source.  A recorded
registry holds the same callables, each of which leaves an `Event` when it runs.  What a callable
does inside is the host's affair and leaves no event.

Recording changes nothing else.  A recorded catalog is a catalog like any other, so that its record
is a record of the very definitions of `Catalog` and `Builder`; forgetting the record gives the run
of the catalog itself (`forget_validate`, `forget_readWith`).

For hosts with a state, `observe` shows a recorded run as its outcome, its events and the state it
leaves.  `observe_bind_ok` and `observe_bind_error` say how runs follow each other.
-/

set_option autoImplicit false

namespace DataCatalog

/-- Something done for a catalog, with what came of it. -/
inductive Event where
  /-- A factory ran. -/
  | built (callable : String) (args : Arguments) (outcome : Except CallError Value)
  /-- A validator ran. -/
  | judged (callable : String) (source : Source) (args : Arguments)
      (outcome : Except CallError Verdict)
  /-- The catalog read a source. -/
  | fetched (source : Source) (outcome : Except CallError Value)
  /-- The catalog wrote to a source. -/
  | stored (source : Source) (data : Value) (outcome : Except CallError Unit)

/-- Whether a callable ran. -/
def Event.isCall : Event → Bool
  | .built _ _ _ => true
  | .judged _ _ _ _ => true
  | .fetched _ _ => false
  | .stored _ _ _ => false

/-- A computation of a host together with the events on its way. -/
@[ext] structure Recorded (m : Type → Type) (α : Type) where
  run : m (α × List Event)

namespace Recorded

variable {m : Type → Type} [Monad m] {ε ε' α β : Type}

instance : Monad (Recorded m) where
  pure a := ⟨pure (a, [])⟩
  bind x f := ⟨do
    let (a, before) ← x.run
    let (b, after) ← (f a).run
    return (b, before ++ after)⟩

/-- Does something on the host and records it. -/
def record (event : α → Event) (x : m α) : Recorded m α :=
  ⟨(fun a => (a, [event a])) <$> x⟩

/-- Tries something on the host and records how it came out. -/
def attempt (event : Except ε α → Event) (x : ExceptT ε m α) : ExceptT ε (Recorded m) α :=
  ExceptT.mk (record event x.run)

/-- The computation without its record. -/
def erase (x : Recorded m α) : m α := Prod.fst <$> x.run

/-- The computation without its record, where it can fail. -/
def forget (x : ExceptT ε (Recorded m) α) : ExceptT ε m α := ExceptT.mk (erase x.run)

@[simp] theorem run_pure (a : α) : (pure a : Recorded m α).run = pure (a, []) := rfl

@[simp] theorem run_bind (x : Recorded m α) (f : α → Recorded m β) :
    (x >>= f).run =
      x.run >>= fun first => (f first.1).run >>= fun second =>
        pure (second.1, first.2 ++ second.2) :=
  rfl

section Lawful

variable [LawfulMonad m]

instance : LawfulMonad (Recorded m) := by
  refine LawfulMonad.mk' _ ?_ ?_ ?_
  · intro α x
    apply Recorded.ext
    show x.run >>= (fun first => pure (first.1, []) >>= fun second =>
      pure (second.1, first.2 ++ second.2)) = x.run
    simp
  · intro α β a f
    apply Recorded.ext
    simp
  · intro α β γ x f g
    apply Recorded.ext
    simp

@[simp] theorem erase_pure (a : α) : erase (pure a : Recorded m α) = pure a := by
  simp [erase]

@[simp] theorem erase_bind (x : Recorded m α) (f : α → Recorded m β) :
    erase (x >>= f) = erase x >>= fun a => erase (f a) := by
  simp [erase]

@[simp] theorem erase_map (f : α → β) (x : Recorded m α) : erase (f <$> x) = f <$> erase x := by
  rw [← bind_pure_comp, erase_bind, ← bind_pure_comp]
  simp

@[simp] theorem erase_record (event : α → Event) (x : m α) : erase (record event x) = x := by
  simp [erase, record]

@[simp] theorem forget_pure (a : α) :
    forget (pure a : ExceptT ε (Recorded m) α) = pure a := by
  apply ExceptT.ext
  exact erase_pure (Except.ok a)

@[simp] theorem forget_throw (e : ε) :
    forget (throw e : ExceptT ε (Recorded m) α) = throw e := by
  apply ExceptT.ext
  exact erase_pure (Except.error e)

@[simp] theorem forget_bind (x : ExceptT ε (Recorded m) α) (f : α → ExceptT ε (Recorded m) β) :
    forget (x >>= f) = forget x >>= fun a => forget (f a) := by
  apply ExceptT.ext
  show erase (x.run >>= ExceptT.bindCont f) = erase x.run >>= ExceptT.bindCont fun a => forget (f a)
  rw [erase_bind]
  congr 1
  funext outcome
  cases outcome with
  | ok a => rfl
  | error e => exact erase_pure (Except.error e)

@[simp] theorem forget_map (f : α → β) (x : ExceptT ε (Recorded m) α) :
    forget (f <$> x) = f <$> forget x := by
  rw [← bind_pure_comp, forget_bind, ← bind_pure_comp]
  simp

@[simp] theorem forget_adapt (g : ε → ε') (x : ExceptT ε (Recorded m) α) :
    forget (ExceptT.adapt g x) = ExceptT.adapt g (forget x) := by
  apply ExceptT.ext
  exact erase_map (Except.mapError g) x.run

@[simp] theorem forget_liftExcept (x : Except ε α) :
    forget (liftM x : ExceptT ε (Recorded m) α) = liftM x := by
  apply ExceptT.ext
  exact erase_pure x

@[simp] theorem forget_lift (x : Recorded m α) :
    forget (ExceptT.lift x : ExceptT ε (Recorded m) α) = ExceptT.lift (erase x) := by
  apply ExceptT.ext
  exact erase_map Except.ok x

@[simp] theorem forget_attempt (event : Except ε α → Event) (x : ExceptT ε m α) :
    forget (attempt event x) = x := by
  apply ExceptT.ext
  exact erase_record event x.run

end Lawful

end Recorded

/-- The factory that leaves an event whenever it runs. -/
def Recorded.factory {m : Type → Type} [Monad m] (reference : String)
    (run : Arguments → ExceptT CallError m Value) :
    Arguments → ExceptT CallError (Recorded m) Value :=
  fun args => attempt (.built reference args) (run args)

/-- The validator that leaves an event whenever it runs. -/
def Recorded.validator {m : Type → Type} [Monad m] (reference : String)
    (run : Source → Arguments → ExceptT CallError m Verdict) :
    Source → Arguments → ExceptT CallError (Recorded m) Verdict :=
  fun source args => attempt (.judged reference source args) (run source args)

/-- The callable that leaves an event whenever it runs. -/
def Callable.recorded {m : Type → Type} [Monad m] (reference : String) :
    Callable m → Callable (Recorded m)
  | .factory run => .factory (Recorded.factory reference run)
  | .validator run => .validator (Recorded.validator reference run)

instance {m : Type → Type} [Monad m] [DataSources m] : DataSources (Recorded m) where
  read source := Recorded.attempt (.fetched source) (DataSources.read source)
  write source data := Recorded.attempt (.stored source data) (DataSources.write source data)

/-- The same registry, whose callables leave events. -/
def Registry.recorded {m : Type → Type} [Monad m] (r : Registry m) : Registry (Recorded m) :=
  ⟨r.callables.mapValues Callable.recorded⟩

/-- The same builder, whose callables leave events. -/
def Builder.recorded {m : Type → Type} [Monad m] (b : Builder m) : Builder (Recorded m) :=
  ⟨b.registry.recorded, b.initialised⟩

/-- The same catalog, whose callables leave events. -/
def Catalog.recorded {m : Type → Type} [Monad m] (c : Catalog m) : Catalog (Recorded m) :=
  ⟨c.datasets, c.registry.recorded, c.initialised⟩

section Forgetting

variable {m : Type → Type} [Monad m]

@[simp] theorem Builder.registry_recorded (b : Builder m) :
    b.recorded.registry = b.registry.recorded := rfl

@[simp] theorem Builder.initialised_recorded (b : Builder m) :
    b.recorded.initialised = b.initialised := rfl

@[simp] theorem Catalog.entry?_recorded (c : Catalog m) (name : String) :
    c.recorded.entry? name = c.entry? name := rfl

@[simp] theorem Catalog.find_recorded (c : Catalog m) (name : String) :
    c.recorded.find name = c.find name := rfl

@[simp] theorem Catalog.builder_recorded (c : Catalog m) :
    c.recorded.builder = c.builder.recorded := rfl

theorem Registry.resolve_recorded (r : Registry m) (reference : String) :
    r.recorded.resolve reference = (r.resolve reference).map (Callable.recorded reference) := by
  have howner (owner : String) : r.recorded.knowsModule owner = r.knowsModule owner := by
    simp [Registry.knowsModule, Registry.references, Registry.recorded]
  unfold Registry.resolve
  split
  · have hget : r.recorded.callables.get? reference =
        (r.callables.get? reference).map (Callable.recorded reference) :=
      Dict.get?_mapValues _ _ _
    rw [hget]
    cases r.callables.get? reference with
    | some callable => rfl
    | none =>
        simp only [Option.map_none, howner]
        split
        · rfl
        · split <;> rfl
  · rfl

/-- A recorded registry finds the factories of the registry, each of which leaves its event. -/
theorem Registry.resolveFactory_recorded (r : Registry m) (reference : String) :
    r.recorded.resolveFactory reference =
      (r.resolveFactory reference).map (Recorded.factory reference) := by
  unfold Registry.resolveFactory
  rw [Registry.resolve_recorded]
  cases r.resolve reference with
  | error e => rfl
  | ok callable =>
      cases callable with
      | factory run => rfl
      | validator run => rfl

/-- A recorded registry finds the validators of the registry, each of which leaves its event. -/
theorem Registry.resolveValidator_recorded (r : Registry m) (reference : String) :
    r.recorded.resolveValidator reference =
      (r.resolveValidator reference).map (Recorded.validator reference) := by
  unfold Registry.resolveValidator
  rw [Registry.resolve_recorded]
  cases r.resolve reference with
  | error e => rfl
  | ok callable =>
      cases callable with
      | factory run => rfl
      | validator run => rfl

variable [LawfulMonad m]

namespace Builder

open Recorded

mutual

theorem forget_resolve (b : Builder m) (p : Position) : (n : Node) →
    forget (b.recorded.resolve p n) = b.resolve p n
  | .null => forget_pure _
  | .bool _ => forget_pure _
  | .int _ => forget_pure _
  | .float _ => forget_pure _
  | .string _ => forget_pure _
  | .seq items => by
      simp [resolve, forget_resolveItems b p 0 items]
  | .map entries => by
      simp [resolve, forget_resolveEntries b p entries]
  | .recipe callable args => by
      have hargs := forget_resolveEntries b (p.key Recipe.argsKey) args
      simp only [resolve]
      rw [registry_recorded, Registry.resolveFactory_recorded]
      cases b.registry.resolveFactory callable with
      | error e => exact forget_throw _
      | ok run =>
          simp [Except.map, hargs, factory]

theorem forget_resolveItems (b : Builder m) (p : Position) (i : Nat) : (items : List Node) →
    forget (b.recorded.resolveItems p i items) = b.resolveItems p i items
  | [] => forget_pure _
  | n :: rest => by
      simp [resolveItems, forget_resolve b (p.index i) n, forget_resolveItems b p (i + 1) rest]

theorem forget_resolveEntries (b : Builder m) (p : Position) : (entries : List (String × Node)) →
    forget (b.recorded.resolveEntries p entries) = b.resolveEntries p entries
  | [] => forget_pure _
  | (k, n) :: rest => by
      simp [resolveEntries, forget_resolve b (p.key k) n, forget_resolveEntries b p rest]

end

@[simp] theorem forget_resolveArgs (b : Builder m) (p : Position) (r : Recipe) :
    forget (b.recorded.resolveArgs p r) = b.resolveArgs p r := by
  simp [resolveArgs, forget_resolveEntries]

@[simp] theorem forget_build (b : Builder m) (p : Position) (r : Recipe) :
    forget (b.recorded.build p r) = b.build p r :=
  forget_resolve b p r.node

@[simp] theorem erase_judge (reference : String)
    (run : Source → Arguments → ExceptT CallError m Verdict) (source : Source) (args : Arguments) :
    erase (judge (validator reference run) source args) = judge run source args := by
  simp only [judge, validator, attempt, erase_bind, ExceptT.run_mk, erase_record]
  congr 1
  funext outcome
  cases outcome with
  | ok verdict => exact erase_pure verdict
  | error e => exact erase_pure _

@[simp] theorem forget_runValidators (b : Builder m) (p : Position) (source : Source) :
    (index : Nat) → (validations : List Recipe) →
      forget (b.recorded.runValidators p source index validations) =
        b.runValidators p source index validations
  | _, [] => forget_pure _
  | index, r :: rest => by
      have hrest := forget_runValidators b p source (index + 1) rest
      simp only [runValidators]
      rw [registry_recorded, Registry.resolveValidator_recorded]
      cases b.registry.resolveValidator r.callable with
      | error e => exact forget_throw _
      | ok run => simp [Except.map, hrest]

@[simp] theorem forget_validate (b : Builder m) (dataset : String) (source : Source)
    (validations : List Recipe) :
    forget (b.recorded.validate dataset source validations) =
      b.validate dataset source validations := by
  simp [validate]

end Builder

namespace Catalog

open Recorded

@[simp] theorem forget_buildSource (c : Catalog m) (name : String) (entry : DatasetEntry) :
    forget (c.recorded.buildSource name entry) = c.buildSource name entry := by
  unfold buildSource
  rw [forget_bind, builder_recorded, Builder.forget_build]
  congr 1
  funext built
  cases built with
  | source s => exact forget_pure s
  | _ => exact forget_throw _

/-- Without its record, a recorded search for a source is the catalog's own. -/
theorem forget_source (c : Catalog m) (name : String) :
    forget (c.recorded.source name) = c.source name := by
  simp [source]

/-- Without its record, a recorded validation is the catalog's own. -/
theorem forget_validate (c : Catalog m) (name : String) :
    forget (c.recorded.validate name) = c.validate name := by
  simp [validate]

variable [DataSources m]

theorem forget_read_source (s : Source) :
    Recorded.forget (DataSources.read s) = (DataSources.read s : ExceptT CallError m Value) :=
  forget_attempt _ _

theorem forget_write_source (s : Source) (data : Value) :
    Recorded.forget (DataSources.write s data) =
      (DataSources.write s data : ExceptT CallError m Unit) :=
  forget_attempt _ _

/-- Without its record, a recorded reading is the catalog's own. -/
theorem forget_readWith (c : Catalog m) (name : String) (skipValidation : Bool) :
    forget (c.recorded.readWith name skipValidation) = c.readWith name skipValidation := by
  unfold readWith
  rw [forget_bind, forget_liftExcept, find_recorded]
  congr 1
  funext entry
  rw [forget_bind, forget_buildSource]
  congr 1
  funext s
  cases skipValidation with
  | true => simp [forget_read_source]
  | false =>
      simp only [Bool.not_false, if_true, forget_bind, Builder.forget_validate,
        builder_recorded]
      congr 1
      funext report
      cases report.result with
      | ok _ => simp [forget_read_source]
      | error e => simp

/-- Without its record, a recorded writing is the catalog's own. -/
theorem forget_write (c : Catalog m) (name : String) (data : Value) :
    forget (c.recorded.write name data) = c.write name data := by
  unfold write
  rw [forget_bind, forget_source]
  congr 1
  funext s
  split
  · rw [forget_adapt, forget_write_source]
  · exact forget_throw _

end Catalog

end Forgetting

/-! ## Runs from a state -/

/-- A recorded run: its outcome, its events and the state it leaves. -/
@[ext] structure Run (σ ε α : Type) where
  outcome : Except ε α
  events : List Event
  state : σ

section Observing

open Recorded

variable {σ ε ε' α β : Type}

/-- The run from a state. -/
def observe (x : ExceptT ε (Recorded (StateM σ)) α) (s : σ) : Run σ ε α :=
  let result := x.run.run.run s
  ⟨result.1.1, result.1.2, result.2⟩

/-- Without the record, a run has the same outcome and leaves the same state. -/
theorem run_forget (x : ExceptT ε (Recorded (StateM σ)) α) (s : σ) :
    (forget x).run.run s = ((observe x s).outcome, (observe x s).state) :=
  rfl

@[simp] theorem observe_pure (a : α) (s : σ) :
    observe (pure a : ExceptT ε (Recorded (StateM σ)) α) s = ⟨.ok a, [], s⟩ :=
  rfl

@[simp] theorem observe_throw (e : ε) (s : σ) :
    observe (throw e : ExceptT ε (Recorded (StateM σ)) α) s = ⟨.error e, [], s⟩ :=
  rfl

@[simp] theorem observe_liftExcept (x : Except ε α) (s : σ) :
    observe (liftM x : ExceptT ε (Recorded (StateM σ)) α) s = ⟨x, [], s⟩ :=
  rfl

/-- A recorded attempt leaves its one event. -/
theorem observe_attempt (event : Except ε α → Event) (x : ExceptT ε (StateM σ) α) (s : σ) :
    observe (attempt event x) s =
      ⟨(x.run.run s).1, [event (x.run.run s).1], (x.run.run s).2⟩ :=
  rfl

@[simp] theorem observe_adapt (g : ε → ε') (x : ExceptT ε (Recorded (StateM σ)) α) (s : σ) :
    observe (ExceptT.adapt g x) s =
      ⟨(observe x s).outcome.mapError g, (observe x s).events, (observe x s).state⟩ := by
  show Run.mk _ ((observe x s).events ++ []) _ = _
  rw [List.append_nil]
  rfl

theorem run_eq_of_observe {x : ExceptT ε (Recorded (StateM σ)) α} {s t : σ}
    {outcome : Except ε α} {events : List Event} (h : observe x s = ⟨outcome, events, t⟩) :
    x.run.run.run s = ((outcome, events), t) := by
  simp only [observe, Run.mk.injEq] at h
  exact Prod.ext (Prod.ext h.1 h.2.1) h.2.2

/-- What follows a success begins in the state that it left. -/
theorem observe_bind_ok {x : ExceptT ε (Recorded (StateM σ)) α}
    (f : α → ExceptT ε (Recorded (StateM σ)) β) {s t : σ} {a : α} {events : List Event}
    (h : observe x s = ⟨.ok a, events, t⟩) :
    observe (x >>= f) s =
      ⟨(observe (f a) t).outcome, events ++ (observe (f a) t).events, (observe (f a) t).state⟩ := by
  have hbind : (x >>= f).run = x.run >>= ExceptT.bindCont f := rfl
  simp only [observe, hbind, Recorded.run_bind, StateT.run_bind, run_eq_of_observe h]
  rfl

/-- Nothing follows a failure. -/
theorem observe_bind_error {x : ExceptT ε (Recorded (StateM σ)) α}
    (f : α → ExceptT ε (Recorded (StateM σ)) β) {s t : σ} {e : ε} {events : List Event}
    (h : observe x s = ⟨.error e, events, t⟩) :
    observe (x >>= f) s = ⟨.error e, events, t⟩ := by
  have hbind : (x >>= f).run = x.run >>= ExceptT.bindCont f := rfl
  simp only [observe, hbind, Recorded.run_bind, StateT.run_bind, run_eq_of_observe h]
  show Run.mk _ (events ++ []) _ = _
  rw [List.append_nil]
  rfl

/-- A sequence of two computations succeeds when both do, the second from where the first ended. -/
theorem observe_bind_eq_ok {x : ExceptT ε (Recorded (StateM σ)) α}
    {f : α → ExceptT ε (Recorded (StateM σ)) β} {s t : σ} {b : β} {events : List Event}
    (h : observe (x >>= f) s = ⟨.ok b, events, t⟩) :
    ∃ a first middle second, observe x s = ⟨.ok a, first, middle⟩ ∧
      observe (f a) middle = ⟨.ok b, second, t⟩ ∧ events = first ++ second := by
  rcases hx : observe x s with ⟨outcome, first, middle⟩
  cases outcome with
  | error e =>
      rw [observe_bind_error f hx] at h
      simp at h
  | ok a =>
      rw [observe_bind_ok f hx] at h
      simp only [Run.mk.injEq] at h
      obtain ⟨houtcome, hevents, hstate⟩ := h
      exact ⟨a, first, middle, (observe (f a) middle).events, rfl,
        Run.ext houtcome rfl hstate, hevents.symm⟩

/-- Every event of every run has a property. -/
def Emits (P : Event → Prop) (x : ExceptT ε (Recorded (StateM σ)) α) : Prop :=
  ∀ s, ∀ event ∈ (observe x s).events, P event

variable {P : Event → Prop}

theorem Emits.of_observe {x : ExceptT ε (Recorded (StateM σ)) α} (hx : Emits P x) {s t : σ}
    {outcome : Except ε α} {events : List Event} (h : observe x s = ⟨outcome, events, t⟩) :
    ∀ event ∈ events, P event := by
  intro event hmem
  exact hx s event (by rw [h]; exact hmem)

theorem emits_pure (a : α) : Emits P (pure a : ExceptT ε (Recorded (StateM σ)) α) := by
  intro s event hmem
  simp at hmem

theorem emits_throw (e : ε) : Emits P (throw e : ExceptT ε (Recorded (StateM σ)) α) := by
  intro s event hmem
  simp at hmem

theorem emits_liftExcept (x : Except ε α) :
    Emits P (liftM x : ExceptT ε (Recorded (StateM σ)) α) := by
  intro s event hmem
  simp at hmem

theorem emits_mono {Q : Event → Prop} {x : ExceptT ε (Recorded (StateM σ)) α}
    (h : ∀ event, P event → Q event) (hx : Emits P x) : Emits Q x := by
  intro s event hmem
  exact h event (hx s event hmem)

theorem emits_attempt {event : Except ε α → Event} (h : ∀ outcome, P (event outcome))
    (x : ExceptT ε (StateM σ) α) : Emits P (attempt event x) := by
  intro s e hmem
  rw [observe_attempt] at hmem
  exact List.mem_singleton.1 hmem ▸ h _

theorem emits_bind {x : ExceptT ε (Recorded (StateM σ)) α}
    {f : α → ExceptT ε (Recorded (StateM σ)) β} (hx : Emits P x) (hf : ∀ a, Emits P (f a)) :
    Emits P (x >>= f) := by
  intro s event hmem
  rcases hrun : observe x s with ⟨outcome, events, t⟩
  have hevents := hx.of_observe hrun
  cases outcome with
  | error e =>
      rw [observe_bind_error f hrun] at hmem
      exact hevents event hmem
  | ok a =>
      rw [observe_bind_ok f hrun] at hmem
      rcases List.mem_append.1 hmem with hmem | hmem
      · exact hevents event hmem
      · exact hf a t event hmem

theorem emits_adapt {x : ExceptT ε (Recorded (StateM σ)) α} (g : ε → ε') (hx : Emits P x) :
    Emits P (ExceptT.adapt g x) := by
  intro s event hmem
  rw [observe_adapt] at hmem
  exact hx s event hmem

end Observing

end DataCatalog
