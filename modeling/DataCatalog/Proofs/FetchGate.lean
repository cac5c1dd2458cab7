import DataCatalog.Proofs.Recording

/-!
# The gate before a fetch

Reading a dataset and validating it are two definitions.  This module shows that they do the same up
to the judgement of the validators, and that a source is fetched only behind a judgement without a
failure (`read_gated`): reading runs the callables that validating runs, hands on its error, turns a
failure into an error with every failed validator, and otherwise fetches the one source that was
built and judged, once and last.
-/

set_option autoImplicit false

namespace DataCatalog

/-- The event of a callable; of validators only those that judge the one source. -/
def Event.JudgesOnly (source : Source) : Event → Prop
  | .built _ _ _ => True
  | .judged _ about _ _ => about = source
  | .fetched _ _ => False
  | .stored _ _ _ => False

theorem Event.JudgesOnly.isCall {source : Source} {event : Event} (h : event.JudgesOnly source) :
    event.isCall = true := by
  cases event with
  | built callable args outcome => rfl
  | judged callable about args outcome => rfl
  | fetched about outcome => exact h.elim
  | stored about data outcome => exact h.elim

variable {σ : Type}

namespace Builder

variable {P : Event → Prop}

mutual

/-- Resolving runs factories and does nothing else. -/
theorem emits_resolve (hbuilt : ∀ callable args outcome, P (.built callable args outcome))
    (b : Builder (StateM σ)) (p : Position) : (n : Node) → Emits P (b.recorded.resolve p n)
  | .null => emits_pure _
  | .bool _ => emits_pure _
  | .int _ => emits_pure _
  | .float _ => emits_pure _
  | .string _ => emits_pure _
  | .seq items => emits_bind (emits_resolveItems hbuilt b p 0 items) fun _ => emits_pure _
  | .map entries => emits_bind (emits_resolveEntries hbuilt b p entries) fun _ => emits_pure _
  | .recipe callable args => by
      have hargs := emits_resolveEntries hbuilt b (p.key Recipe.argsKey) args
      simp only [resolve]
      rw [registry_recorded, Registry.resolveFactory_recorded]
      cases b.registry.resolveFactory callable with
      | error e => exact emits_throw _
      | ok run =>
          refine emits_bind hargs fun explicit => emits_adapt _ (emits_attempt ?_ _)
          exact hbuilt callable _

theorem emits_resolveItems (hbuilt : ∀ callable args outcome, P (.built callable args outcome))
    (b : Builder (StateM σ)) (p : Position) (i : Nat) :
    (items : List Node) → Emits P (b.recorded.resolveItems p i items)
  | [] => emits_pure _
  | n :: rest => emits_bind (emits_resolve hbuilt b (p.index i) n) fun _ =>
      emits_bind (emits_resolveItems hbuilt b p (i + 1) rest) fun _ => emits_pure _

theorem emits_resolveEntries (hbuilt : ∀ callable args outcome, P (.built callable args outcome))
    (b : Builder (StateM σ)) (p : Position) :
    (entries : List (String × Node)) → Emits P (b.recorded.resolveEntries p entries)
  | [] => emits_pure _
  | (k, n) :: rest => emits_bind (emits_resolve hbuilt b (p.key k) n) fun _ =>
      emits_bind (emits_resolveEntries hbuilt b p rest) fun _ => emits_pure _

end

theorem emits_resolveArgs (hbuilt : ∀ callable args outcome, P (.built callable args outcome))
    (b : Builder (StateM σ)) (p : Position) (r : Recipe) : Emits P (b.recorded.resolveArgs p r) :=
  emits_bind (emits_resolveEntries hbuilt b _ r.args) fun _ => emits_pure _

/-- The judgement in the outcome of a validator: its failure counts as one that does not pass. -/
def verdictOf : Except CallError Verdict → Verdict
  | .ok verdict => verdict
  | .error e => .fail e.message

theorem judge_eq_map {m : Type → Type} [Monad m] [LawfulMonad m]
    (run : Source → Arguments → ExceptT CallError m Verdict) (source : Source) (args : Arguments) :
    judge run source args = verdictOf <$> (run source args).run := by
  rw [← bind_pure_comp]
  unfold judge
  congr 1
  funext outcome
  cases outcome with
  | ok verdict => rfl
  | error e => rfl

/-- A recorded validator leaves its event and the judgement in its outcome. -/
theorem observe_judge {ε : Type} (reference : String)
    (run : Source → Arguments → ExceptT CallError (StateM σ) Verdict) (source : Source)
    (args : Arguments) (s : σ) :
    observe (ExceptT.lift (judge (Recorded.validator reference run) source args) :
        ExceptT ε (Recorded (StateM σ)) Verdict) s =
      ⟨.ok (verdictOf ((run source args).run.run s).1),
        [.judged reference source args ((run source args).run.run s).1],
        ((run source args).run.run s).2⟩ := by
  rw [judge_eq_map]
  rfl

theorem emits_runValidators (b : Builder (StateM σ)) (p : Position) (source : Source) :
    (index : Nat) → (validations : List Recipe) →
      Emits (Event.JudgesOnly source) (b.recorded.runValidators p source index validations)
  | _, [] => emits_pure _
  | index, r :: rest => by
      have hrest := emits_runValidators b p source (index + 1) rest
      simp only [runValidators]
      rw [registry_recorded, Registry.resolveValidator_recorded]
      cases b.registry.resolveValidator r.callable with
      | error e => exact emits_throw _
      | ok run =>
          refine emits_bind (emits_resolveArgs (fun _ _ _ => trivial) b _ r) fun args => ?_
          refine emits_bind ?_ fun verdict => emits_bind hrest fun _ => emits_pure _
          intro s event hmem
          rw [observe_judge] at hmem
          exact List.mem_singleton.1 hmem ▸ rfl

theorem emits_validate (b : Builder (StateM σ)) (dataset : String) (source : Source)
    (validations : List Recipe) :
    Emits (Event.JudgesOnly source) (b.recorded.validate dataset source validations) :=
  emits_bind (emits_runValidators b _ source 0 validations) fun _ => emits_pure _

/-- The judgements are listed in the order of the validators, under their indices and callables. -/
theorem outcomes_of_runValidators (b : Builder (StateM σ)) (p : Position) (source : Source) :
    (index : Nat) → (validations : List Recipe) → {s t : σ} → {outcomes : List ValidatorOutcome} →
      {events : List Event} →
      observe (b.recorded.runValidators p source index validations) s = ⟨.ok outcomes, events, t⟩ →
      (outcomes.map fun o => (o.index, o.callable)) =
        (validations.zipIdx index).map fun entry => (entry.2, entry.1.callable)
  | index, [], s, t, outcomes, events, h => by
      simp only [runValidators, observe_pure, Run.mk.injEq, Except.ok.injEq] at h
      rw [← h.1]
      rfl
  | index, r :: rest, s, t, outcomes, events, h => by
      simp only [runValidators] at h
      rw [registry_recorded, Registry.resolveValidator_recorded] at h
      cases hr : b.registry.resolveValidator r.callable with
      | error e =>
          rw [hr] at h
          simp [Except.map] at h
      | ok run =>
          rw [hr] at h
          obtain ⟨args, _, _, _, -, h, -⟩ := observe_bind_eq_ok h
          obtain ⟨verdict, _, _, _, -, h, -⟩ := observe_bind_eq_ok h
          obtain ⟨later, _, _, _, hlater, h, -⟩ := observe_bind_eq_ok h
          simp only [observe_pure, Run.mk.injEq, Except.ok.injEq] at h
          have ih := outcomes_of_runValidators b p source (index + 1) rest hlater
          rw [← h.1, List.map_cons, ih]
          rfl

theorem report_of_validate (b : Builder (StateM σ)) {dataset : String} {source : Source}
    {validations : List Recipe} {s t : σ} {report : ValidationReport} {events : List Event}
    (h : observe (b.recorded.validate dataset source validations) s = ⟨.ok report, events, t⟩) :
    report.dataset = dataset ∧
      (report.outcomes.map fun o => (o.index, o.callable)) =
        validations.mapIdx fun i r => (i, r.callable) := by
  obtain ⟨outcomes, _, _, _, houtcomes, h, -⟩ := observe_bind_eq_ok h
  simp only [observe_pure, Run.mk.injEq, Except.ok.injEq] at h
  rw [← h.1]
  refine ⟨rfl, ?_⟩
  rw [List.mapIdx_eq_zipIdx_map]
  exact outcomes_of_runValidators b _ source 0 validations houtcomes

end Builder

namespace ValidationReport

/-- The validators that did not pass: index, callable and reason, in the order of the report. -/
def failing (r : ValidationReport) : List (Nat × String × String) :=
  r.outcomes.filterMap fun o =>
    match o.verdict with
    | .pass => none
    | .fail reason => some (o.index, o.callable, reason)

theorem failing_eq_map_failure? (r : ValidationReport) :
    r.failing = (r.outcomes.filterMap failure?).map fun f => (f.index, f.callable, f.reason) := by
  unfold failing
  rw [List.map_filterMap]
  congr 1
  funext o
  unfold failure?
  cases o.verdict with
  | pass => rfl
  | fail reason => rfl

/-- A report has no failures if, and only if, every judgement in it is a pass. -/
theorem passed_iff {r : ValidationReport} :
    r.passed = true ↔ ∀ o ∈ r.outcomes, o.verdict = .pass := by
  unfold passed
  rw [List.all_eq_true]
  refine forall₂_congr fun o _ => ?_
  cases o.verdict with
  | pass => simp [Verdict.passed]
  | fail reason => simp [Verdict.passed]

theorem result_of_all_pass {r : ValidationReport} (h : ∀ o ∈ r.outcomes, o.verdict = .pass) :
    r.result = .ok () := by
  have hnone : r.outcomes.filterMap failure? = [] := by
    rw [List.filterMap_eq_nil_iff]
    intro o hmem
    simp [failure?, h o hmem]
  simp [result, hnone]

theorem result_of_failure {r : ValidationReport} (h : ∃ o ∈ r.outcomes, o.verdict ≠ .pass) :
    r.result = .error ⟨r.dataset, r.outcomes.filterMap failure?⟩ := by
  obtain ⟨o, hmem, hfail⟩ := h
  have hsome : r.outcomes.filterMap failure? ≠ [] := by
    intro hnil
    have hnone := List.filterMap_eq_nil_iff.1 hnil o hmem
    unfold failure? at hnone
    cases hv : o.verdict with
    | pass => exact hfail hv
    | fail reason => simp [hv] at hnone
  unfold result
  split
  · rename_i hnil
    exact absurd hnil hsome
  · rfl

end ValidationReport

namespace Catalog

section Pipelines

theorem find_of_entry?_eq_some {m : Type → Type} {c : Catalog m} {name : String}
    {entry : DatasetEntry}
    (h : c.entry? name = some entry) : c.find name = .ok entry := by
  unfold find
  rw [h]

theorem find_of_entry?_eq_none {m : Type → Type} {c : Catalog m} {name : String}
    (h : c.entry? name = none) :
    c.find name = .error (.unknownDataset name c.names) := by
  unfold find
  rw [h]

theorem entry?_of_find {m : Type → Type} {c : Catalog m} {name : String} {entry : DatasetEntry}
    (h : c.find name = .ok entry) : c.entry? name = some entry := by
  unfold find at h
  cases hc : c.entry? name with
  | none => simp [hc] at h
  | some found => simpa [hc] using h

variable {m : Type → Type} [Monad m] [LawfulMonad m]

/-- The source of a dataset, built, with the judgements of the dataset's validators. -/
def judged (c : Catalog m) (name : String) :
    ExceptT CatalogError m (Source × ValidationReport) := do
  let entry ← c.find name
  let source ← c.buildSource name entry
  let report ← c.builder.validate name source entry.validations
  return (source, report)

/-- What reading does once its source is judged. -/
def deliver [DataSources m] (name : String) (source : Source) (report : ValidationReport) :
    ExceptT CatalogError m Value :=
  match report.result with
  | .ok _ => ExceptT.adapt (.sourceRead name) (DataSources.read source)
  | .error e => throw (.validation e)

theorem validate_eq_judged (c : Catalog m) (name : String) :
    c.validate name = c.judged name >>= fun built => pure built.2 := by
  simp [validate, judged]

theorem read_eq_judged [DataSources m] (c : Catalog m) (name : String) :
    c.read name = c.judged name >>= fun built => deliver name built.1 built.2 := by
  simp only [read, readWith, judged, bind_assoc, pure_bind, Bool.not_false, if_true]
  congr 1
  funext entry
  congr 1
  funext source
  congr 1
  funext report
  unfold deliver
  cases report.result with
  | ok _ => rfl
  | error e => simp

/-- The same catalog, with no validators for one of its datasets. -/
def withoutValidations (c : Catalog m) (name : String) : Catalog m :=
  match c.entry? name with
  | some entry => { c with datasets := c.datasets.insert name { entry with validations := [] } }
  | none => c

theorem liftM_ok_bind {α β : Type} (a : α) (f : α → ExceptT CatalogError m β) :
    (liftM (Except.ok a : Except CatalogError α) >>= f : ExceptT CatalogError m β) = f a :=
  pure_bind a f

theorem liftM_error_bind {α β : Type} (e : CatalogError) (f : α → ExceptT CatalogError m β) :
    (liftM (Except.error e : Except CatalogError α) >>= f : ExceptT CatalogError m β) = throw e :=
  ExceptT.bind_throw f

/-- Skipping the validators is reading a catalog that has none for the dataset. -/
theorem readWith_true_eq_read [DataSources m] (c : Catalog m) (name : String) :
    c.readWith name true = (c.withoutValidations name).read name := by
  cases hentry : c.entry? name with
  | none =>
      have hsame : c.withoutValidations name = c := by
        unfold withoutValidations
        rw [hentry]
      rw [hsame]
      unfold read readWith
      rw [find_of_entry?_eq_none hentry, liftM_error_bind, liftM_error_bind]
  | some entry =>
      have hbare : Catalog.entry? (c.withoutValidations name) name =
          some { entry with validations := [] } := by
        unfold withoutValidations
        rw [hentry]
        unfold entry?
        simp
      have hbuilder : (c.withoutValidations name).builder = c.builder := by
        unfold withoutValidations
        rw [hentry]
        rfl
      unfold read readWith
      rw [find_of_entry?_eq_some hentry, find_of_entry?_eq_some hbare, liftM_ok_bind, liftM_ok_bind]
      simp [buildSource, hbuilder, Builder.validate, Builder.runValidators,
        ValidationReport.result]

end Pipelines

theorem recorded_withoutValidations {m : Type → Type} [Monad m] (c : Catalog m) (name : String) :
    (c.withoutValidations name).recorded = c.recorded.withoutValidations name := by
  unfold withoutValidations
  rw [entry?_recorded]
  cases c.entry? name with
  | none => rfl
  | some entry => rfl

/-- What a recorded delivery does: it fetches when nothing failed, and fails else. -/
theorem observe_deliver_of_all_pass [DataSources (StateM σ)] (name : String) (source : Source)
    {report : ValidationReport} (h : ∀ o ∈ report.outcomes, o.verdict = .pass) (t : σ) :
    let fetched := (DataSources.read source : ExceptT CallError (StateM σ) Value).run.run t
    observe (deliver name source report : ExceptT CatalogError (Recorded (StateM σ)) Value) t =
      ⟨fetched.1.mapError (.sourceRead name), [.fetched source fetched.1], fetched.2⟩ := by
  unfold deliver
  rw [ValidationReport.result_of_all_pass h]
  exact observe_adapt _ _ t

theorem observe_deliver_of_failure [DataSources (StateM σ)] (name : String) (source : Source)
    {report : ValidationReport} (h : ∃ o ∈ report.outcomes, o.verdict ≠ .pass) (t : σ) :
    observe (deliver name source report : ExceptT CatalogError (Recorded (StateM σ)) Value) t =
      ⟨.error (.validation ⟨report.dataset, report.outcomes.filterMap ValidationReport.failure?⟩),
        [], t⟩ := by
  unfold deliver
  rw [ValidationReport.result_of_failure h]
  exact observe_throw _ t

/-- Building a source runs factories only, whichever source is judged later. -/
theorem emits_buildSource (c : Catalog (StateM σ)) (name : String) (entry : DatasetEntry)
    (source : Source) : Emits (Event.JudgesOnly source) (c.recorded.buildSource name entry) := by
  refine emits_bind (Builder.emits_resolve (fun _ _ _ => trivial) c.builder _ _) fun built => ?_
  cases built with
  | source s => exact emits_pure s
  | _ => exact emits_throw _

/-- Judging a dataset runs callables only. -/
theorem emits_judged (c : Catalog (StateM σ)) (name : String) :
    Emits (fun event => event.isCall = true) (c.recorded.judged name) := by
  unfold judged
  refine emits_bind (emits_liftExcept _) fun entry => ?_
  refine emits_bind ?_ fun source => emits_bind ?_ fun report => emits_pure _
  · -- building judges nothing, so that any source will do here
    exact emits_mono (fun _ => Event.JudgesOnly.isCall)
      (emits_buildSource c name entry ⟨0, .memory⟩)
  · exact emits_mono (fun _ => Event.JudgesOnly.isCall)
      (Builder.emits_validate c.builder name source entry.validations)

/-- A dataset that was judged has an entry and a source, the one that all its validators judged. -/
theorem observe_judged_eq_ok {c : Catalog (StateM σ)} {name : String} {s t : σ} {source : Source}
    {report : ValidationReport} {events : List Event}
    (h : observe (c.recorded.judged name) s = ⟨.ok (source, report), events, t⟩) :
    ∃ entry first middle, c.entry? name = some entry ∧
      observe (c.recorded.source name) s = ⟨.ok source, first, middle⟩ ∧ first <+: events ∧
      (∀ event ∈ events, event.JudgesOnly source) ∧ report.dataset = name ∧
      (report.outcomes.map fun o => (o.index, o.callable)) =
        entry.validations.mapIdx fun i r => (i, r.callable) := by
  -- a run that succeeds has found the dataset, built its source and judged it, in this order
  obtain ⟨entry, none, s', rest, hfind, hrest, hevents⟩ := observe_bind_eq_ok h
  obtain ⟨built, first, middle, later, hbuild, hlater, hrestEvents⟩ := observe_bind_eq_ok hrest
  obtain ⟨judgement, second, last, nothing, hvalidate, hlast, hlaterEvents⟩ :=
    observe_bind_eq_ok hlater
  simp only [observe_pure, observe_liftExcept, Run.mk.injEq, Except.ok.injEq,
    Prod.mk.injEq] at hlast hfind
  obtain ⟨⟨rfl, rfl⟩, rfl, rfl⟩ := hlast
  obtain ⟨hfind, rfl, rfl⟩ := hfind
  have hfound : c.find name = .ok entry := hfind
  have hall : events = first ++ second := by
    rw [hevents, hrestEvents, hlaterEvents, List.append_nil, List.nil_append]
  obtain ⟨hdataset, houtcomes⟩ := Builder.report_of_validate c.builder hvalidate
  refine ⟨entry, first, middle, entry?_of_find hfound, ?_, ?_, ?_, hdataset, houtcomes⟩
  · unfold Catalog.source
    rw [find_recorded, hfound, liftM_ok_bind]
    exact hbuild
  · rw [hall]
    exact List.prefix_append first second
  · intro event hmem
    rw [hall] at hmem
    rcases List.mem_append.1 hmem with hmem | hmem
    · exact (emits_buildSource c name entry built).of_observe hbuild event hmem
    · exact (Builder.emits_validate c.builder name built _).of_observe hvalidate event hmem

section Judged

variable {c : Catalog (StateM σ)} {name : String} {s t : σ} {events : List Event}

/-- Validating is judging, with the source left out of the result. -/
theorem observe_validate_of_judged {outcome : Except CatalogError (Source × ValidationReport)}
    (h : observe (c.recorded.judged name) s = ⟨outcome, events, t⟩) :
    observe (c.recorded.validate name) s = ⟨outcome.map Prod.snd, events, t⟩ := by
  rw [validate_eq_judged]
  cases outcome with
  | error e => exact observe_bind_error _ h
  | ok built =>
      rw [observe_bind_ok _ h, observe_pure, List.append_nil]
      rfl

variable [DataSources (StateM σ)]

/-- What cannot be judged is not read. -/
theorem observe_read_of_judged_error {e : CatalogError}
    (h : observe (c.recorded.judged name) s = ⟨.error e, events, t⟩) :
    observe (c.recorded.read name) s = ⟨.error e, events, t⟩ := by
  rw [read_eq_judged]
  exact observe_bind_error _ h

theorem observe_read_of_judged_ok {source : Source} {report : ValidationReport}
    (h : observe (c.recorded.judged name) s = ⟨.ok (source, report), events, t⟩) :
    observe (c.recorded.read name) s =
      ⟨(observe (deliver name source report) t).outcome,
        events ++ (observe (deliver name source report) t).events,
        (observe (deliver name source report) t).state⟩ := by
  rw [read_eq_judged]
  exact observe_bind_ok _ h

/-- Delivering calls nothing. -/
theorem filter_isCall_deliver (name : String) (source : Source) (report : ValidationReport)
    (t : σ) :
    (observe (deliver name source report : ExceptT CatalogError (Recorded (StateM σ)) Value)
      t).events.filter Event.isCall = [] := by
  by_cases hpass : ∀ o ∈ report.outcomes, o.verdict = .pass
  · rw [observe_deliver_of_all_pass name source hpass t]
    rfl
  · have hfail : ∃ o ∈ report.outcomes, o.verdict ≠ .pass := by
      simpa [Classical.not_forall] using hpass
    rw [observe_deliver_of_failure name source hfail t]
    rfl

/-- Reading calls what validating calls, in the same order. -/
theorem filter_isCall_read (c : Catalog (StateM σ)) (name : String) (s : σ) :
    (observe (c.recorded.read name) s).events.filter Event.isCall =
      (observe (c.recorded.validate name) s).events := by
  rcases hjudged : observe (c.recorded.judged name) s with ⟨outcome, events, t⟩
  have hcalls : events.filter Event.isCall = events :=
    List.filter_eq_self.2 ((emits_judged c name).of_observe hjudged)
  rw [observe_validate_of_judged hjudged]
  cases outcome with
  | error e =>
      rw [observe_read_of_judged_error hjudged]
      exact hcalls
  | ok built =>
      rw [observe_read_of_judged_ok hjudged, List.filter_append, hcalls, filter_isCall_deliver,
        List.append_nil]

/-- Reading hands on the error of validating. -/
theorem read_of_validate_error {e : CatalogError}
    (h : (observe (c.recorded.validate name) s).outcome = .error e) :
    observe (c.recorded.read name) s =
      ⟨.error e, (observe (c.recorded.validate name) s).events,
        (observe (c.recorded.validate name) s).state⟩ := by
  rcases hjudged : observe (c.recorded.judged name) s with ⟨outcome, events, t⟩
  rw [observe_validate_of_judged hjudged] at h ⊢
  cases outcome with
  | error failure =>
      cases h
      exact observe_read_of_judged_error hjudged
  | ok built => cases h

omit [DataSources (StateM σ)] in
/-- Behind every report there is a source that was judged. -/
theorem exists_judged_of_validate_ok {report : ValidationReport}
    (h : (observe (c.recorded.validate name) s).outcome = .ok report) :
    ∃ source, observe (c.recorded.judged name) s =
      ⟨.ok (source, report), (observe (c.recorded.validate name) s).events,
        (observe (c.recorded.validate name) s).state⟩ := by
  rcases hjudged : observe (c.recorded.judged name) s with ⟨outcome, events, t⟩
  rw [observe_validate_of_judged hjudged] at h ⊢
  cases outcome with
  | error e => cases h
  | ok built =>
      cases h
      exact ⟨built.1, rfl⟩

end Judged

/-- Reading is behind a gate.  It runs the callables that validating the dataset runs, in their
order, and hands on an error of it.  A judgement with a failure ends in an error with every failed
validator, and nothing is fetched; without a failure the one source that was built and judged is
fetched once, at the end.  Skipping the validators is reading a catalog that has none. -/
theorem read_gated [DataSources (StateM σ)] (c : Catalog (StateM σ)) (name : String) (s : σ) :
    let validated := observe (c.recorded.validate name) s
    let read := observe (c.recorded.read name) s
    (c.validate name).run.run s = (validated.outcome, validated.state) ∧
    (c.read name).run.run s = (read.outcome, read.state) ∧
    read.events.filter Event.isCall = validated.events ∧
    (∀ e, validated.outcome = .error e → read = ⟨.error e, validated.events, validated.state⟩) ∧
    (∀ report, validated.outcome = .ok report →
      ∃ entry source, c.entry? name = some entry ∧
        (observe (c.recorded.source name) s).outcome = .ok source ∧
        (observe (c.recorded.source name) s).events <+: validated.events ∧
        (∀ event ∈ validated.events, event.JudgesOnly source) ∧
        (report.outcomes.map fun o => (o.index, o.callable)) =
          entry.validations.mapIdx (fun i r => (i, r.callable)) ∧
        ((∃ o ∈ report.outcomes, o.verdict ≠ .pass) →
          ∃ failures : List ValidationFailure,
            read = ⟨.error (.validation ⟨name, failures⟩), validated.events, validated.state⟩ ∧
            (failures.map fun f => (f.index, f.callable, f.reason)) = report.failing) ∧
        ((∀ o ∈ report.outcomes, o.verdict = .pass) →
          let fetched := (DataSources.read source : ExceptT CallError (StateM σ) Value).run.run
            validated.state
          read = ⟨fetched.1.mapError (.sourceRead name),
            validated.events ++ [.fetched source fetched.1], fetched.2⟩)) ∧
    c.readWith name true = (c.withoutValidations name).read name ∧
    c.recorded.readWith name true = (c.withoutValidations name).recorded.read name := by
  intro validated read
  have hplainValidate : (c.validate name).run.run s = (validated.outcome, validated.state) := by
    rw [← forget_validate]
    rfl
  have hplainRead : (c.read name).run.run s = (read.outcome, read.state) := by
    rw [Catalog.read, ← forget_readWith]
    rfl
  have hskip : c.recorded.readWith name true = (c.withoutValidations name).recorded.read name := by
    rw [recorded_withoutValidations]
    exact readWith_true_eq_read c.recorded name
  refine ⟨hplainValidate, hplainRead, filter_isCall_read c name s,
    fun e he => read_of_validate_error he, ?_, readWith_true_eq_read c name, hskip⟩
  intro report hreport
  -- the report is about a source, and reading goes on with this very source
  obtain ⟨source, hjudged⟩ := exists_judged_of_validate_ok hreport
  obtain ⟨entry, first, middle, hentry, hsource, hprefix, hjudges, hdataset, houtcomes⟩ :=
    observe_judged_eq_ok hjudged
  have hread := observe_read_of_judged_ok hjudged
  refine ⟨entry, source, hentry, ?_, ?_, hjudges, houtcomes, ?_, ?_⟩
  · rw [hsource]
  · rw [hsource]
    exact hprefix
  · intro hfail
    refine ⟨report.outcomes.filterMap ValidationReport.failure?, ?_,
      report.failing_eq_map_failure?.symm⟩
    show observe (c.recorded.read name) s = _
    rw [hread, observe_deliver_of_failure name source hfail _, hdataset, List.append_nil]
  · intro hpass fetched
    show observe (c.recorded.read name) s = _
    rw [hread, observe_deliver_of_all_pass name source hpass _]

end Catalog

end DataCatalog
