import DataCatalog.Proofs.FetchGate

/-!
# The judgements of all validators

Running validators is a sequence of steps, one for each recipe.  A step either judges, whatever the
verdict is, or ends the run: when the callable is no validator, or its arguments cannot be resolved.

`judgesAll_or_unready` says that a run judges every recipe, or every recipe before the first that is
not ready.  Main statement: `every_validator_judges` says what either of them leaves in the report
and in the record, and that the summaries of a report agree.
-/

set_option autoImplicit false

namespace DataCatalog

/-- Whether a validator ran. -/
def Event.isJudgement : Event → Bool
  | .built _ _ _ => false
  | .judged _ _ _ _ => true
  | .fetched _ _ => false
  | .stored _ _ _ => false

/-- A validator that ran: its recipe, the arguments that it was given and what came of it. -/
structure Judgement where
  recipe : Recipe
  args : Arguments
  outcome : Except CallError Verdict

namespace Judgement

/-- What the judgement leaves in a record. -/
def event (source : Source) (j : Judgement) : Event :=
  .judged j.recipe.callable source j.args j.outcome

/-- What the judgement leaves in a report. -/
def reported (index : Nat) (j : Judgement) : ValidatorOutcome :=
  ⟨index, j.recipe.callable, Builder.verdictOf j.outcome⟩

end Judgement

namespace Builder

variable {σ : Type} (b : Builder (StateM σ)) (p : Position) (source : Source)

/-! ## One validator -/

/-- A validator judges: it is found, its arguments are resolved, and it runs on the source. -/
inductive Judges (r : Recipe) (s : σ) : Judgement → List Event → σ → Prop where
  | intro {run : Source → Arguments → ExceptT CallError (StateM σ) Verdict} {args : Arguments}
      {building : List Event} {t u : σ} {outcome : Except CallError Verdict}
      (found : b.registry.resolveValidator r.callable = .ok run)
      (resolved : observe (b.recorded.resolveArgs p r) s = ⟨.ok args, building, t⟩)
      (answers : (run source args).run.run t = (outcome, u)) :
      Judges r s ⟨r, args, outcome⟩ (building ++ [.judged r.callable source args outcome]) u

/-- A recipe cannot be run as a validator, and why. -/
inductive Unready (r : Recipe) (s : σ) : CatalogError → List Event → σ → Prop where
  | missing {e : ReferenceError} (absent : b.registry.resolveValidator r.callable = .error e) :
      Unready r s (.reference p e) [] s
  | unresolved {run : Source → Arguments → ExceptT CallError (StateM σ) Verdict}
      {e : CatalogError} {building : List Event} {t : σ}
      (found : b.registry.resolveValidator r.callable = .ok run)
      (fails : observe (b.recorded.resolveArgs p r) s = ⟨.error e, building, t⟩) :
      Unready r s e building t

variable {b p source} {r : Recipe} {s t : σ} {j : Judgement} {e : CatalogError}
  {events : List Event}

/-- There is nothing else that a recipe can do. -/
theorem judges_or_unready (b : Builder (StateM σ)) (p : Position) (source : Source) (r : Recipe)
    (s : σ) :
    (∃ j events t, b.Judges p source r s j events t) ∨
      ∃ e events t, b.Unready p r s e events t := by
  cases hfound : b.registry.resolveValidator r.callable with
  | error e => exact .inr ⟨_, _, _, .missing hfound⟩
  | ok run =>
      rcases hargs : observe (b.recorded.resolveArgs p r) s with ⟨outcome, building, t⟩
      cases outcome with
      | error e => exact .inr ⟨_, _, _, .unresolved hfound hargs⟩
      | ok args => exact .inl ⟨_, _, _, .intro hfound hargs rfl⟩

/-- With a record or without, arguments come out alike. -/
theorem outcome_resolveArgs (b : Builder (StateM σ)) (p : Position) (r : Recipe) (s : σ) :
    (observe (b.recorded.resolveArgs p r) s).outcome = ((b.resolveArgs p r).run.run s).1 := by
  have hforget := run_forget (b.recorded.resolveArgs p r) s
  rw [forget_resolveArgs] at hforget
  exact congrArg Prod.fst hforget.symm

theorem filter_isJudgement_resolveArgs {outcome : Except CatalogError Arguments}
    (h : observe (b.recorded.resolveArgs p r) s = ⟨outcome, events, t⟩) :
    events.filter Event.isJudgement = [] := by
  have hemits : Emits (fun event => event.isJudgement = false) (b.recorded.resolveArgs p r) :=
    emits_resolveArgs (fun _ _ _ => rfl) b p r
  exact List.filter_eq_nil_iff.2 fun event hmem => by simp [hemits.of_observe h event hmem]

theorem Judges.filter_isJudgement (h : b.Judges p source r s j events t) :
    events.filter Event.isJudgement = [j.event source] := by
  obtain ⟨found, resolved, answers⟩ := h
  rw [List.filter_append, filter_isJudgement_resolveArgs resolved]
  rfl

theorem Unready.filter_isJudgement (h : b.Unready p r s e events t) :
    events.filter Event.isJudgement = [] := by
  cases h with
  | missing absent => rfl
  | unresolved found fails => exact filter_isJudgement_resolveArgs fails

/-- A judgement is reported, and the later validators run, whatever it says. -/
theorem observe_runValidators_of_judges {index : Nat}
    (h : b.Judges (p.index index) source r s j events t) (rest : List Recipe) :
    let later := observe (b.recorded.runValidators p source (index + 1) rest) t
    observe (b.recorded.runValidators p source index (r :: rest)) s =
      ⟨later.outcome.map (j.reported index :: ·), events ++ later.events, later.state⟩ := by
  intro later
  obtain ⟨found, resolved, answers⟩ := h
  rename_i run args building middle outcome
  have hjudge := observe_judge (ε := CatalogError) r.callable run source args middle
  rw [answers] at hjudge
  rw [runValidators, registry_recorded, Registry.resolveValidator_recorded, found]
  simp only [Except.map]
  rw [observe_bind_ok _ resolved, observe_bind_ok _ hjudge]
  rcases hlater : later with ⟨outcomes, last, u⟩
  cases outcomes with
  | error e =>
      rw [observe_bind_error _ hlater]
      simp
  | ok outcomes =>
      rw [observe_bind_ok _ hlater]
      simp [Judgement.reported]

/-- What is not ready ends the run. -/
theorem observe_runValidators_of_unready {index : Nat}
    (h : b.Unready (p.index index) r s e events t) (source : Source) (rest : List Recipe) :
    observe (b.recorded.runValidators p source index (r :: rest)) s = ⟨.error e, events, t⟩ := by
  rw [runValidators, registry_recorded, Registry.resolveValidator_recorded]
  cases h with
  | missing absent =>
      rw [absent]
      rfl
  | unresolved found fails =>
      rw [found]
      exact observe_bind_error _ fails

/-! ## All validators -/

variable (b p source) in
/-- The validators from an index on judge, one after the other. -/
inductive JudgesAll : Nat → List Recipe → σ → List Judgement → List Event → σ → Prop where
  | nil {index : Nat} {s : σ} : JudgesAll index [] s [] [] s
  | cons {index : Nat} {r : Recipe} {rest : List Recipe} {s t u : σ} {j : Judgement}
      {js : List Judgement} {first later : List Event}
      (head : b.Judges (p.index index) source r s j first t)
      (tail : JudgesAll (index + 1) rest t js later u) :
      JudgesAll index (r :: rest) s (j :: js) (first ++ later) u

variable {index : Nat} {validations before : List Recipe} {js : List Judgement}

theorem JudgesAll.map_recipe (h : b.JudgesAll p source index validations s js events t) :
    js.map (·.recipe) = validations := by
  induction h with
  | nil => rfl
  | cons head tail ih =>
      obtain ⟨-, -, -⟩ := head
      rw [List.map_cons, ih]

/-- Every validator leaves one event, in the order of the validators. -/
theorem JudgesAll.filter_isJudgement (h : b.JudgesAll p source index validations s js events t) :
    events.filter Event.isJudgement = js.map (Judgement.event source) := by
  induction h with
  | nil => rfl
  | cons head tail ih =>
      rw [List.filter_append, head.filter_isJudgement, ih]
      rfl

theorem JudgesAll.found (h : b.JudgesAll p source index validations s js events t) :
    ∀ r ∈ validations, ∃ run, b.registry.resolveValidator r.callable = .ok run := by
  induction h with
  | nil => exact List.forall_mem_nil _
  | cons head tail ih =>
      obtain ⟨found, -, -⟩ := head
      exact List.forall_mem_cons.2 ⟨⟨_, found⟩, ih⟩

/-- What judged is reported, and the run goes on behind it. -/
theorem observe_runValidators_append
    (h : b.JudgesAll p source index before s js events t) (rest : List Recipe) :
    let later := observe (b.recorded.runValidators p source (index + before.length) rest) t
    observe (b.recorded.runValidators p source index (before ++ rest)) s =
      ⟨later.outcome.map ((js.mapIdx fun i j => j.reported (index + i)) ++ ·),
        events ++ later.events, later.state⟩ := by
  induction h with
  | nil =>
      intro later
      show later = _
      cases houtcome : later.outcome with
      | error e => exact Run.ext houtcome rfl rfl
      | ok outcomes => exact Run.ext houtcome rfl rfl
  | @cons index r front s middle u j js first second head tail ih =>
      intro later
      -- the later validators are counted from the next index on
      have hlength : index + (r :: front).length = index + 1 + front.length := by
        rw [List.length_cons]
        omega
      have hindex : (fun (i : Nat) (j : Judgement) => j.reported (index + (i + 1))) =
          fun i j => j.reported (index + 1 + i) := by
        funext i j
        congr 1
        omega
      have hlater : later =
          observe (b.recorded.runValidators p source (index + 1 + front.length) rest) u := by
        rw [← hlength]
      rw [List.cons_append, observe_runValidators_of_judges head, ih, ← hlater, List.mapIdx_cons,
        hindex, List.append_assoc]
      cases later.outcome with
      | error e => rfl
      | ok outcomes => rfl

/-- A run in which every validator judges. -/
theorem observe_runValidators_of_judgesAll
    (h : b.JudgesAll p source index validations s js events t) :
    observe (b.recorded.runValidators p source index validations) s =
      ⟨.ok (js.mapIdx fun i j => j.reported (index + i)), events, t⟩ := by
  have hrun := observe_runValidators_append h []
  rw [List.append_nil] at hrun
  rw [hrun, runValidators, observe_pure]
  simp [Except.map]

/-- A run up to the first recipe that is not ready. -/
theorem observe_runValidators_of_stop {last : List Event} {u : σ}
    (h : b.JudgesAll p source index before s js events t)
    (hstop : b.Unready (p.index (index + before.length)) r t e last u) (after : List Recipe) :
    observe (b.recorded.runValidators p source index (before ++ r :: after)) s =
      ⟨.error e, events ++ last, u⟩ := by
  rw [observe_runValidators_append h, observe_runValidators_of_unready hstop]
  rfl

/-- Every validator judges, or every one before the first that is not ready. -/
theorem judgesAll_or_unready (b : Builder (StateM σ)) (p : Position) (source : Source)
    (index : Nat) (validations : List Recipe) (s : σ) :
    (∃ js events t, b.JudgesAll p source index validations s js events t) ∨
      ∃ before r after js events t e last u, validations = before ++ r :: after ∧
        b.JudgesAll p source index before s js events t ∧
        b.Unready (p.index (index + before.length)) r t e last u := by
  induction validations generalizing index s with
  | nil => exact .inl ⟨[], [], s, .nil⟩
  | cons r rest ih =>
      rcases judges_or_unready b (p.index index) source r s with
        ⟨j, first, t, hjudges⟩ | ⟨e, last, t, hunready⟩
      · -- what comes first among the later recipes comes first in the whole list
        rcases ih (index + 1) t with
          ⟨js, later, u, hall⟩ | ⟨before, q, after, js, later, u, e, last, v, rfl, hall, hstop⟩
        · exact .inl ⟨_, _, _, .cons hjudges hall⟩
        · have hlength : index + 1 + before.length = index + (r :: before).length := by
            rw [List.length_cons]
            omega
          rw [hlength] at hstop
          exact .inr ⟨r :: before, q, after, _, _, _, e, last, v, rfl, .cons hjudges hall, hstop⟩
      · exact .inr ⟨[], r, rest, [], [], s, e, last, t, rfl, .nil, hunready⟩

end Builder

/-! ## Reports -/

/-- A failure as the outcome that it comes from. -/
def ValidationFailure.asOutcome (f : ValidationFailure) : ValidatorOutcome :=
  ⟨f.index, f.callable, .fail f.reason⟩

namespace ValidationReport

variable (r : ValidationReport)

theorem passed_iff_failures_eq_nil : r.passed = true ↔ r.failures = [] := by
  unfold passed failures
  rw [List.all_eq_true, List.filter_eq_nil_iff]
  simp

theorem passed_iff_result_eq_ok : r.passed = true ↔ r.result = .ok () := by
  by_cases hpass : ∀ o ∈ r.outcomes, o.verdict = .pass
  · exact iff_of_true (passed_iff.2 hpass) (result_of_all_pass hpass)
  · have hfail : ∃ o ∈ r.outcomes, o.verdict ≠ .pass := by
      simpa [Classical.not_forall] using hpass
    rw [passed_iff, result_of_failure hfail]
    exact iff_of_false hpass (by simp)

theorem map_asOutcome_filterMap_failure? (outcomes : List ValidatorOutcome) :
    (outcomes.filterMap failure?).map ValidationFailure.asOutcome =
      outcomes.filter (!·.verdict.passed) := by
  rw [List.map_filterMap, ← List.filterMap_eq_filter]
  congr 1
  funext o
  obtain ⟨index, callable, verdict⟩ := o
  cases verdict with
  | pass => rfl
  | fail reason => rfl

/-- The error of a report is about its dataset and lists the failing outcomes. -/
theorem failures_of_result {e : ValidationError} (h : r.result = .error e) :
    e.dataset = r.dataset ∧ e.failures.map ValidationFailure.asOutcome = r.failures := by
  unfold result at h
  split at h
  · cases h
  · cases h
    exact ⟨rfl, map_asOutcome_filterMap_failure? r.outcomes⟩

end ValidationReport

/-! ## Validating -/

namespace Builder

variable {σ : Type}

theorem observe_validate (b : Builder (StateM σ)) (dataset : String) (source : Source)
    (validations : List Recipe) (s : σ) :
    let run := observe (b.recorded.runValidators
      ((Position.root.key dataset).key Recipe.validationsKey) source 0 validations) s
    observe (b.recorded.validate dataset source validations) s =
      ⟨run.outcome.map (ValidationReport.mk dataset), run.events, run.state⟩ := by
  intro run
  rcases hrun : run with ⟨outcome, events, t⟩
  unfold validate
  cases outcome with
  | error e => exact observe_bind_error _ hrun
  | ok outcomes =>
      rw [observe_bind_ok _ hrun, observe_pure, List.append_nil]
      rfl

theorem validate_of_judgesAll {b : Builder (StateM σ)} {dataset : String} {source : Source}
    {validations : List Recipe} {s t : σ} {js : List Judgement} {events : List Event}
    (h : b.JudgesAll ((Position.root.key dataset).key Recipe.validationsKey) source 0 validations s
      js events t) :
    observe (b.recorded.validate dataset source validations) s =
      ⟨.ok ⟨dataset, js.mapIdx Judgement.reported⟩, events, t⟩ := by
  have hindex : (fun (i : Nat) (j : Judgement) => j.reported (0 + i)) =
      fun i j => j.reported i := by
    funext i j
    rw [Nat.zero_add]
  rw [observe_validate, observe_runValidators_of_judgesAll h, hindex]
  rfl

theorem validate_of_stop {b : Builder (StateM σ)} {dataset : String} {source : Source}
    {before : List Recipe} {r : Recipe} {s t u : σ} {js : List Judgement} {e : CatalogError}
    {events last : List Event}
    (h : b.JudgesAll ((Position.root.key dataset).key Recipe.validationsKey) source 0 before s
      js events t)
    (hstop : b.Unready
      (((Position.root.key dataset).key Recipe.validationsKey).index before.length) r t e last u)
    (after : List Recipe) :
    observe (b.recorded.validate dataset source (before ++ r :: after)) s =
      ⟨.error e, events ++ last, u⟩ := by
  rw [← Nat.zero_add before.length] at hstop
  rw [observe_validate, observe_runValidators_of_stop h hstop]
  rfl

/-- Validating fails exactly when some callable is no validator, or some arguments cannot be
resolved in the state that the validators before them leave. -/
theorem validate_error_iff (b : Builder (StateM σ)) (dataset : String) (source : Source)
    (validations : List Recipe) (s : σ) :
    let p := (Position.root.key dataset).key Recipe.validationsKey
    (∃ e, (observe (b.recorded.validate dataset source validations) s).outcome = .error e) ↔
      ∃ before r after, validations = before ++ r :: after ∧
        ((∃ e, b.registry.resolveValidator r.callable = .error e) ∨
          ∃ js events t, b.JudgesAll p source 0 before s js events t ∧
            ∃ e, ((b.resolveArgs (p.index before.length) r).run.run t).1 = .error e) := by
  intro p
  rcases judgesAll_or_unready b p source 0 validations s with
    ⟨js, events, t, hall⟩ | ⟨before, r, after, js, events, t, e, last, u, rfl, hall, hstop⟩
  · have hok := validate_of_judgesAll hall
    constructor
    · rintro ⟨e, herror⟩
      rw [hok] at herror
      cases herror
    · -- the recipe that is not ready is any, so that those before it need not be ready either
      rintro ⟨before, r, after, rfl, hnot⟩
      obtain ⟨run, hfound⟩ := hall.found r (by simp)
      rcases hnot with ⟨e, habsent⟩ | ⟨js', events', t', hbefore, e, hfails⟩
      · rw [hfound] at habsent
        cases habsent
      · rw [← outcome_resolveArgs] at hfails
        have hstop : b.Unready (p.index before.length) r t' e _ _ :=
          .unresolved hfound (Run.ext hfails rfl rfl)
        exact ⟨e, congrArg Run.outcome (validate_of_stop hbefore hstop after)⟩
  · rw [Nat.zero_add] at hstop
    refine iff_of_true ⟨e, congrArg Run.outcome (validate_of_stop hall hstop after)⟩ ?_
    refine ⟨before, r, after, rfl, ?_⟩
    cases hstop with
    | missing absent => exact .inl ⟨_, absent⟩
    | unresolved found fails =>
        refine .inr ⟨js, events, t, hall, e, ?_⟩
        rw [← outcome_resolveArgs]
        exact congrArg Run.outcome fails

/-- Validating runs every validator, or every one before the first recipe that is not ready, once
and on the one source, whatever the verdicts are.  It fails exactly when some recipe is not ready:
its callable is no validator, or its arguments cannot be resolved where they are reached.  The
report lists what every validator answered, and the summaries of any report agree. -/
theorem every_validator_judges (b : Builder (StateM σ)) (dataset : String) (source : Source)
    (validations : List Recipe) (s : σ) :
    let p := (Position.root.key dataset).key Recipe.validationsKey
    let validated := observe (b.recorded.validate dataset source validations) s
    (b.validate dataset source validations).run.run s = (validated.outcome, validated.state) ∧
    ((∃ e, validated.outcome = .error e) ↔
      ∃ before r after, validations = before ++ r :: after ∧
        ((∃ e, b.registry.resolveValidator r.callable = .error e) ∨
          ∃ js events t, b.JudgesAll p source 0 before s js events t ∧
            ∃ e, ((b.resolveArgs (p.index before.length) r).run.run t).1 = .error e)) ∧
    (∀ e, validated.outcome = .error e →
      ∃ before r after js events t last, validations = before ++ r :: after ∧
        b.JudgesAll p source 0 before s js events t ∧
        b.Unready (p.index before.length) r t e last validated.state ∧
        validated.events = events ++ last ∧ js.map (·.recipe) = before ∧
        validated.events.filter Event.isJudgement = js.map (Judgement.event source)) ∧
    (∀ report, validated.outcome = .ok report →
      ∃ js, b.JudgesAll p source 0 validations s js validated.events validated.state ∧
        js.map (·.recipe) = validations ∧
        validated.events.filter Event.isJudgement = js.map (Judgement.event source) ∧
        report = ⟨dataset, js.mapIdx Judgement.reported⟩) ∧
    (∀ report : ValidationReport,
      (report.passed = true ↔ report.failures = []) ∧
      (report.passed = true ↔ report.result = .ok ()) ∧
      ∀ e, report.result = .error e →
        e.dataset = report.dataset ∧
          e.failures.map ValidationFailure.asOutcome = report.failures) := by
  intro p validated
  have hplain : (b.validate dataset source validations).run.run s =
      (validated.outcome, validated.state) := by
    rw [← forget_validate]
    rfl
  refine ⟨hplain, validate_error_iff b dataset source validations s, ?stopped, ?judged,
    fun report => ⟨report.passed_iff_failures_eq_nil, report.passed_iff_result_eq_ok,
      fun e => report.failures_of_result⟩⟩
  -- a run of the one kind never has the outcome of the other
  all_goals
    rcases judgesAll_or_unready b p source 0 validations s with
      ⟨js, events, t, hall⟩ | ⟨before, r, after, js, events, t, e, last, u, rfl, hall, hstop⟩
  case stopped.inl =>
    intro e herror
    have hvalidated : validated = _ := validate_of_judgesAll hall
    rw [hvalidated] at herror
    cases herror
  case stopped.inr =>
    intro e' herror
    rw [Nat.zero_add] at hstop
    have hvalidated : validated = _ := validate_of_stop hall hstop after
    rw [hvalidated] at herror ⊢
    cases herror
    refine ⟨before, r, after, js, events, t, last, rfl, hall, hstop, rfl, hall.map_recipe, ?_⟩
    rw [List.filter_append, hall.filter_isJudgement, hstop.filter_isJudgement, List.append_nil]
  case judged.inl =>
    intro report hreport
    have hvalidated : validated = _ := validate_of_judgesAll hall
    rw [hvalidated] at hreport ⊢
    cases hreport
    exact ⟨js, hall, hall.map_recipe, hall.filter_isJudgement, rfl⟩
  case judged.inr =>
    intro report hreport
    rw [Nat.zero_add] at hstop
    have hvalidated : validated = _ := validate_of_stop hall hstop after
    rw [hvalidated] at hreport
    cases hreport

end Builder

end DataCatalog
