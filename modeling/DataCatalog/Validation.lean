import DataCatalog.Builder

/-!
# Validating a source

Every validator of a dataset judges the same source, in the order of their declaration; a judgement
does not stop the ones after it.  A validator that fails counts as one that does not pass.  A
validator that cannot be found, or whose arguments cannot be built, is an error of the
configuration and ends the run.
-/

set_option autoImplicit false

namespace DataCatalog

/-- The judgement of one validator. -/
structure ValidatorOutcome where
  index : Nat
  callable : String
  verdict : Verdict
  deriving DecidableEq, Repr

/-- The judgements of all validators of a dataset. -/
structure ValidationReport where
  dataset : String
  outcomes : List ValidatorOutcome
  deriving DecidableEq, Repr

namespace ValidationReport

/-- Whether every validator passed. -/
def passed (r : ValidationReport) : Bool :=
  r.outcomes.all (·.verdict.passed)

/-- The validators that did not pass. -/
def failures (r : ValidationReport) : List ValidatorOutcome :=
  r.outcomes.filter (!·.verdict.passed)

/-- A judgement as a failure, if it is one. -/
def failure? (o : ValidatorOutcome) : Option ValidationFailure :=
  match o.verdict with
  | .pass => none
  | .fail reason => some ⟨o.index, o.callable, reason⟩

/-- An error with every failure, if there is one. -/
def result (r : ValidationReport) : Except ValidationError Unit :=
  match r.outcomes.filterMap failure? with
  | [] => .ok ()
  | failures => .error ⟨r.dataset, failures⟩

end ValidationReport

namespace Builder

variable {m : Type → Type} [Monad m]

/-- What a validator says of a source; its failure is a judgement too. -/
def judge (validator : Source → Arguments → ExceptT CallError m Verdict) (source : Source)
    (args : Arguments) : m Verdict := do
  match ← (validator source args).run with
  | .ok verdict => return verdict
  | .error e => return .fail e.message

/-- Runs the validators from an index on; `p` is the position of their list. -/
def runValidators (b : Builder m) (p : Position) (source : Source) (index : Nat) :
    List Recipe → ExceptT CatalogError m (List ValidatorOutcome)
  | [] => pure []
  | r :: rest => do
      match b.registry.resolveValidator r.callable with
      | .error e => throw (.reference (p.index index) e)
      | .ok validator =>
          let args ← b.resolveArgs (p.index index) r
          let verdict ← ExceptT.lift (judge validator source args)
          let outcomes ← b.runValidators p source (index + 1) rest
          return ⟨index, r.callable, verdict⟩ :: outcomes

/-- Runs the validators of a dataset on a source. -/
def validate (b : Builder m) (dataset : String) (source : Source) (validations : List Recipe) :
    ExceptT CatalogError m ValidationReport := do
  let p := (Position.root.key dataset).key Recipe.validationsKey
  let outcomes ← b.runValidators p source 0 validations
  return ⟨dataset, outcomes⟩

end Builder

end DataCatalog
