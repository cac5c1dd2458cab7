import DataCatalog.Proofs.Footprint
import DataCatalog.Proofs.MatchingValues

/-!
# Doing the same in coupled worlds

A computation is run in two worlds of which something is known: a relation `T` between them.  Two
computations are coupled by `T` when they have the same outcome in any such worlds, up to a relation
between their results, and leave worlds that are related in turn.

What `T` must provide for the built-in callables is little.  For building (`BuildsAlike`) it is kept
when an identity is given out and when matching payloads are stored; for validating (`JudgesAlike`)
the payloads of related identities match, and a file is present or has content in both worlds or in
neither.

Main statements: `Builder.couples_resolve`, `Builder.couples_validate`, `Catalog.couples_source` and
`Catalog.couples_validate` say that building and validating are coupled by every such relation.
-/

set_option autoImplicit false

namespace DataCatalog

/-! ## Coupled computations -/

/-- Two computations that do the same in worlds related by `T`: they fail with the same error or
succeed with results related by `Q`, and leave worlds related by `T`. -/
def Couples {ε α β : Type} (T : World → World → Prop) (Q : α → β → Prop)
    (x : ExceptT ε (StateM World) α) (y : ExceptT ε (StateM World) β) : Prop :=
  ∀ w w', T w w' →
    ExceptMatch Q (x.run.run w).1 (y.run.run w').1 ∧ T (x.run.run w).2 (y.run.run w').2

section Rules

variable {ε ε' α β γ δ : Type} {T : World → World → Prop} {Q : α → β → Prop}

theorem couples_pure {a : α} {b : β} (h : Q a b) :
    Couples T Q (pure a : ExceptT ε (StateM World) α) (pure b) :=
  fun _ _ related => ⟨.ok h, related⟩

theorem couples_throw (e : ε) :
    Couples T Q (throw e : ExceptT ε (StateM World) α) (throw e) :=
  fun _ _ related => ⟨.error e, related⟩

theorem couples_liftExcept (outcome : Except ε α) :
    Couples T Eq (liftM outcome : ExceptT ε (StateM World) α) (liftM outcome) := by
  intro w w' related
  cases outcome with
  | error e => exact ⟨.error e, related⟩
  | ok a => exact ⟨.ok rfl, related⟩

theorem Couples.mono {x : ExceptT ε (StateM World) α} {y : ExceptT ε (StateM World) β}
    {Q' : α → β → Prop} (h : Couples T Q x y) (hQ : ∀ a b, Q a b → Q' a b) : Couples T Q' x y :=
  fun w w' related => ⟨(h w w' related).1.mono hQ, (h w w' related).2⟩

/-- Looking at related worlds, one sees related things. -/
theorem couples_look {x : StateM World α} {y : StateM World β} (hx : ∀ w : World, (x.run w).2 = w)
    (hy : ∀ w : World, (y.run w).2 = w) (h : ∀ w w', T w w' → Q (x.run w).1 (y.run w').1) :
    Couples T Q (liftM x : ExceptT ε (StateM World) α) (liftM y) := by
  intro w w' related
  rw [run_liftM, run_liftM, hx, hy]
  exact ⟨.ok (h w w' related), related⟩

theorem couples_adapt {x : ExceptT ε (StateM World) α} {y : ExceptT ε (StateM World) β}
    (h : Couples T Q x y) (g : ε → ε') :
    Couples T Q (ExceptT.adapt g x) (ExceptT.adapt g y) := by
  intro w w' related
  obtain ⟨houtcome, hleft⟩ := h w w' related
  rw [run_adapt, run_adapt]
  refine ⟨?_, hleft⟩
  generalize (x.run.run w).1 = outcome at houtcome
  generalize (y.run.run w').1 = outcome' at houtcome
  cases houtcome with
  | error e => exact .error (g e)
  | ok h => exact .ok h

/-- One computation after another: the second is given related results in related worlds. -/
theorem couples_bind {x : ExceptT ε (StateM World) α} {y : ExceptT ε (StateM World) β}
    {f : α → ExceptT ε (StateM World) γ} {g : β → ExceptT ε (StateM World) δ} {Q' : γ → δ → Prop}
    (h : Couples T Q x y) (hnext : ∀ a b, Q a b → Couples T Q' (f a) (g b)) :
    Couples T Q' (x >>= f) (y >>= g) := by
  intro w w' related
  obtain ⟨houtcome, hleft⟩ := h w w' related
  rcases hx : x.run.run w with ⟨outcome, t⟩
  rcases hy : y.run.run w' with ⟨outcome', t'⟩
  rw [hx, hy] at houtcome hleft
  dsimp only at houtcome hleft
  cases houtcome with
  | error e =>
      rw [run_bind_error f hx, run_bind_error g hy]
      exact ⟨.error e, hleft⟩
  | ok hab =>
      rw [run_bind_ok f hx, run_bind_ok g hy]
      exact hnext _ _ hab t t' hleft

/-- Equal results are as good as related ones for what comes next. -/
theorem couples_bind_eq {x y : ExceptT ε (StateM World) α}
    {f : α → ExceptT ε (StateM World) γ} {g : α → ExceptT ε (StateM World) δ}
    {Q' : γ → δ → Prop} (h : Couples T Eq x y)
    (hnext : ∀ a, Couples T Q' (f a) (g a)) : Couples T Q' (x >>= f) (y >>= g) :=
  couples_bind h fun a _ hab => hab ▸ hnext a

end Rules

/-! ## What building and validating look at -/

/-- Worlds in which sources are built alike: new identities are related, and the worlds stay related
when an identity is given out and when matching payloads are stored. -/
structure BuildsAlike (R : Nat → Nat → Prop) (T : World → World → Prop) : Prop where
  next : ∀ {w w'}, T w w' → R w.memory.next w'.memory.next
  advance : ∀ {w w'}, T w w' →
    T { w with memory := w.memory.advance } { w' with memory := w'.memory.advance }
  setPayload : ∀ {w w'}, T w w' → ∀ {i j}, R i j → ∀ {data data' : Value}, data.Matches R data' →
    T { w with memory := w.memory.setPayload i data }
      { w' with memory := w'.memory.setPayload j data' }

/-- Worlds in which sources are judged alike: payloads match, and of a file it is seen in both
whether it is present and whether it has content. -/
structure JudgesAlike (R : Nat → Nat → Prop) (T : World → World → Prop) : Prop where
  payload : ∀ {w w'}, T w w' → ∀ {i j}, R i j →
    (w.memory.payload i).Matches R (w'.memory.payload j)
  isPresent : ∀ {w w'}, T w w' → ∀ path, w.files.isPresent path = w'.files.isPresent path
  hasContent : ∀ {w w'}, T w w' → ∀ path, w.files.hasContent path = w'.files.hasContent path

variable {R : Nat → Nat → Prop} {T : World → World → Prop}

open Value Arguments

/-! ## The built-in callables -/

section Factories

variable (alike : BuildsAlike R T) {a b : Arguments} (hmatch : Match R a b)
include alike hmatch

/-- Matching arguments make new sources that are related. -/
theorem MemorySource.couples_factory :
    Couples T (Matches R) (factory a : ExceptT CallError (StateM World) Value) (factory b) := by
  intro w w' related
  have hread := hmatch.read_payload_match
  rw [run_factory, run_factory]
  generalize a.read described = outcome at hread
  generalize b.read described = outcome' at hread
  cases hread with
  | error e => exact ⟨.error e, related⟩
  | ok hdata =>
      have hnext := alike.next related
      exact ⟨.ok ⟨w'.memory.next, rfl, hnext⟩,
        alike.setPayload (alike.advance related) hnext hdata⟩

theorem FileSource.couples_factory :
    Couples T (Matches R) (factory a : ExceptT CallError (StateM World) Value) (factory b) := by
  intro w w' related
  rw [run_factory, run_factory, hmatch.read_file_eq]
  cases a.read described with
  | error e => exact ⟨.error e, related⟩
  | ok found =>
      exact ⟨.ok ⟨w'.memory.next, rfl, alike.next related⟩, alike.advance related⟩

theorem BuiltIn.couples_factory {reference : String}
    {factory : Arguments → ExceptT CallError (StateM World) Value}
    (hfound : (registry : Registry (StateM World)).resolveFactory reference = .ok factory) :
    Couples T (Matches R) (factory a) (factory b) := by
  rcases factory_of_resolve hfound with rfl | rfl
  · exact MemorySource.couples_factory alike hmatch
  · exact FileSource.couples_factory alike hmatch

end Factories

/-- Related sources describe themselves alike. -/
theorem JudgesAlike.describesAlike (alike : JudgesAlike R T) {w w' : World} (related : T w w') :
    DescribesAlike R w.memory.describe w'.memory.describe := by
  intro s identity hpair
  unfold MemoryStore.describe
  cases s.kind with
  | memory =>
      dsimp only
      rw [(alike.payload related hpair).kind_eq]
  | _ => rfl

section Validators

variable (alike : JudgesAlike R T) {i j : Nat} {kind : SourceKind} (hpair : R i j)
include alike hpair

namespace Validator

theorem couples_wrongKind (validator judged : String) :
    Couples T Eq
      (wrongKind validator judged ⟨i, kind⟩ : ExceptT CallError (StateM World) Verdict)
      (wrongKind validator judged ⟨j, kind⟩) := by
  have hlook : Couples (ε := CallError) T (DescribesAlike R)
      (liftM (Memory.descriptions : StateM World (Source → String)))
      (liftM (Memory.descriptions : StateM World (Source → String))) :=
    couples_look (fun _ => rfl) (fun _ => rfl) fun _ _ related => alike.describesAlike related
  refine couples_bind hlook fun describe describe' hdescribe => ?_
  rw [hdescribe ⟨i, kind⟩ j hpair]
  exact couples_throw _

/-- The payloads of related sources match. -/
theorem couples_payload {ε : Type} :
    Couples (ε := ε) T (Matches R) (liftM (Memory.payload i : StateM World Value))
      (liftM (Memory.payload j : StateM World Value)) :=
  couples_look (fun _ => rfl) (fun _ => rfl) fun _ _ related => alike.payload related hpair

variable {a b : Arguments} (hmatch : Match R a b)
include hmatch

theorem couples_notEmpty :
    Couples T Eq (notEmpty ⟨i, kind⟩ a : ExceptT CallError (StateM World) Verdict)
      (notEmpty ⟨j, kind⟩ b) := by
  unfold notEmpty
  rw [hmatch.read_nothing_eq]
  cases a.read ArgumentReader.finish with
  | error e => exact couples_throw e
  | ok _ =>
      cases kind with
      | file path format =>
          refine couples_bind_eq ?_ fun _ => couples_pure rfl
          exact couples_look (fun _ => rfl) (fun _ => rfl) fun _ _ related =>
            alike.hasContent related path
      | memory =>
          refine couples_bind (couples_payload alike hpair) fun payload payload' hpayload => ?_
          rw [hpayload.isEmpty_eq, hpayload.kind_eq]
          exact couples_pure rfl
      | foreign typeName writable => exact couples_wrongKind alike hpair _ _

theorem couples_lengthWithin (validator boundName : String)
    (judge : (length bound : Nat) → Verdict) :
    Couples T Eq
      (lengthWithin validator boundName judge ⟨i, kind⟩ a :
        ExceptT CallError (StateM World) Verdict)
      (lengthWithin validator boundName judge ⟨j, kind⟩ b) := by
  unfold lengthWithin
  rw [hmatch.read_bound_eq]
  cases a.read (bound boundName) with
  | error e => exact couples_throw e
  | ok n =>
      cases kind with
      | memory =>
          refine couples_bind (couples_payload alike hpair) fun payload payload' hpayload => ?_
          rw [hpayload.size?_eq, hpayload.kind_eq]
          cases payload.size? with
          | none => exact couples_pure rfl
          | some length => exact couples_pure rfl
      | file path format => exact couples_wrongKind alike hpair _ _
      | foreign typeName writable => exact couples_wrongKind alike hpair _ _

theorem couples_fileExists :
    Couples T Eq (fileExists ⟨i, kind⟩ a : ExceptT CallError (StateM World) Verdict)
      (fileExists ⟨j, kind⟩ b) := by
  unfold fileExists
  rw [hmatch.read_nothing_eq]
  cases a.read ArgumentReader.finish with
  | error e => exact couples_throw e
  | ok _ =>
      cases kind with
      | file path format =>
          refine couples_bind_eq ?_ fun _ => couples_pure rfl
          exact couples_look (fun _ => rfl) (fun _ => rfl) fun _ _ related =>
            alike.isPresent related path
      | memory => exact couples_wrongKind alike hpair _ _
      | foreign typeName writable => exact couples_wrongKind alike hpair _ _

end Validator

theorem BuiltIn.couples_validator {reference : String}
    {validator : Source → Arguments → ExceptT CallError (StateM World) Verdict}
    (hfound : (registry : Registry (StateM World)).resolveValidator reference = .ok validator)
    {a b : Arguments} (hmatch : Match R a b) :
    Couples T Eq (validator ⟨i, kind⟩ a) (validator ⟨j, kind⟩ b) := by
  rcases validator_of_resolve hfound with rfl | rfl | rfl | rfl
  · exact Validator.couples_notEmpty alike hpair hmatch
  · exact Validator.couples_lengthWithin alike hpair hmatch _ _ _
  · exact Validator.couples_lengthWithin alike hpair hmatch _ _ _
  · exact Validator.couples_fileExists alike hpair hmatch

end Validators

/-! ## Building and validating -/

namespace Builder

/-- A judgement is the same when the validator does the same. -/
theorem couples_judge {ε : Type}
    {validator : Source → Arguments → ExceptT CallError (StateM World) Verdict}
    {source source' : Source} {a b : Arguments}
    (h : Couples T Eq (validator source a) (validator source' b)) :
    Couples T Eq
      (ExceptT.lift (judge validator source a) : ExceptT ε (StateM World) Verdict)
      (ExceptT.lift (judge validator source' b)) := by
  intro w w' related
  obtain ⟨houtcome, hleft⟩ := h w w' related
  rw [judge_eq_map, judge_eq_map]
  refine ⟨?_, hleft⟩
  show ExceptMatch Eq (.ok (verdictOf ((validator source a).run.run w).1))
    (.ok (verdictOf ((validator source' b).run.run w').1))
  generalize ((validator source a).run.run w).1 = outcome at houtcome
  generalize ((validator source' b).run.run w').1 = outcome' at houtcome
  cases houtcome with
  | error e => exact .ok rfl
  | ok hsame => exact .ok hsame

variable {initialised : Dict Value}

mutual

/-- Resolving a configuration does the same in related worlds. -/
theorem couples_resolve (alike : BuildsAlike R T)
    (hinitialised : EntriesMatch R initialised.entries initialised.entries) (p : Position) :
    (n : Node) → Couples T (Matches R) ((BuiltIn.builder initialised).resolve p n)
      ((BuiltIn.builder initialised).resolve p n)
  | .null => couples_pure rfl
  | .bool _ => couples_pure rfl
  | .int _ => couples_pure rfl
  | .float _ => couples_pure rfl
  | .string _ => couples_pure rfl
  | .seq items => couples_bind (couples_resolveItems alike hinitialised p 0 items)
      fun _ others hitems => couples_pure ⟨others, rfl, hitems⟩
  | .map entries => couples_bind (couples_resolveEntries alike hinitialised p entries)
      fun _ others hentries => couples_pure ⟨others, rfl, hentries⟩
  | .recipe callable args => by
      have hargs := couples_resolveEntries alike hinitialised (p.key Recipe.argsKey) args
      rw [resolve]
      cases hfound : (BuiltIn.registry : Registry (StateM World)).resolveFactory callable with
      | error e => exact couples_throw _
      | ok factory =>
          refine couples_bind hargs fun explicit explicit' hexplicit => couples_adapt ?_ _
          exact BuiltIn.couples_factory alike (match_of_entries hexplicit hinitialised) hfound

theorem couples_resolveItems (alike : BuildsAlike R T)
    (hinitialised : EntriesMatch R initialised.entries initialised.entries) (p : Position)
    (i : Nat) : (items : List Node) →
    Couples T (ItemsMatch R) ((BuiltIn.builder initialised).resolveItems p i items)
      ((BuiltIn.builder initialised).resolveItems p i items)
  | [] => couples_pure rfl
  | n :: rest =>
      couples_bind (couples_resolve alike hinitialised (p.index i) n) fun _ w hv =>
        couples_bind (couples_resolveItems alike hinitialised p (i + 1) rest)
          fun _ later hrest => couples_pure ⟨w, later, rfl, hv, hrest⟩

theorem couples_resolveEntries (alike : BuildsAlike R T)
    (hinitialised : EntriesMatch R initialised.entries initialised.entries) (p : Position) :
    (entries : List (String × Node)) →
    Couples T (EntriesMatch R) ((BuiltIn.builder initialised).resolveEntries p entries)
      ((BuiltIn.builder initialised).resolveEntries p entries)
  | [] => couples_pure rfl
  | (k, n) :: rest =>
      couples_bind (couples_resolve alike hinitialised (p.key k) n) fun _ w hv =>
        couples_bind (couples_resolveEntries alike hinitialised p rest)
          fun _ later hrest => couples_pure ⟨w, later, rfl, hv, hrest⟩

end

variable (alike : BuildsAlike R T)
variable (hinitialised : EntriesMatch R initialised.entries initialised.entries)
include alike hinitialised

theorem couples_resolveArgs (p : Position) (r : Recipe) :
    Couples T (Match R) ((BuiltIn.builder initialised).resolveArgs p r)
      ((BuiltIn.builder initialised).resolveArgs p r) :=
  couples_bind (couples_resolveEntries alike hinitialised _ r.args) fun _ _ hexplicit =>
    couples_pure (match_of_entries hexplicit hinitialised)

variable (judged : JudgesAlike R T) {i j : Nat} (hpair : R i j) (kind : SourceKind)
include judged hpair

/-- Validators judge related sources alike. -/
theorem couples_runValidators (p : Position) (index : Nat) (validations : List Recipe) :
    Couples T Eq ((BuiltIn.builder initialised).runValidators p ⟨i, kind⟩ index validations)
      ((BuiltIn.builder initialised).runValidators p ⟨j, kind⟩ index validations) := by
  induction validations generalizing index with
  | nil => exact couples_pure rfl
  | cons r rest ih =>
      rw [runValidators, runValidators]
      cases hfound : (BuiltIn.registry : Registry (StateM World)).resolveValidator r.callable with
      | error e => exact couples_throw _
      | ok validator =>
          refine couples_bind (couples_resolveArgs alike hinitialised _ r) fun args args' hargs => ?_
          have hverdict : Couples T Eq (validator ⟨i, kind⟩ args) (validator ⟨j, kind⟩ args') :=
            BuiltIn.couples_validator judged hpair hfound hargs
          exact couples_bind_eq (couples_judge hverdict) fun verdict =>
            couples_bind_eq (ih (index + 1)) fun outcomes => couples_pure rfl

theorem couples_validate (dataset : String) (validations : List Recipe) :
    Couples T Eq ((BuiltIn.builder initialised).validate dataset ⟨i, kind⟩ validations)
      ((BuiltIn.builder initialised).validate dataset ⟨j, kind⟩ validations) :=
  couples_bind_eq (couples_runValidators alike hinitialised judged hpair kind _ 0 validations)
    fun _ => couples_pure rfl

end Builder

namespace Catalog

variable (alike : BuildsAlike R T) (datasets : Dict DatasetEntry) {initialised : Dict Value}
variable (hinitialised : EntriesMatch R initialised.entries initialised.entries)
include alike hinitialised

/-- What is done with the source of a dataset is done with related sources. -/
theorem couples_withSource {α β : Type} {Q : α → β → Prop} (name : String)
    {use : DatasetEntry → Source → ExceptT CatalogError (StateM World) α}
    {use' : DatasetEntry → Source → ExceptT CatalogError (StateM World) β}
    (huse : ∀ entry i j kind, R i j →
      Couples T Q (use entry ⟨i, kind⟩) (use' entry ⟨j, kind⟩)) :
    Couples T Q ((BuiltIn.catalog datasets initialised).withSource name use)
      ((BuiltIn.catalog datasets initialised).withSource name use') := by
  unfold withSource
  refine couples_bind_eq (couples_liftExcept _) fun entry => ?_
  rw [buildSource_eq, bind_assoc, bind_assoc]
  refine couples_bind (Builder.couples_resolve alike hinitialised _ entry.source.node)
    fun v v' hmatch => ?_
  cases v with
  | source s =>
      obtain ⟨identity, rfl, hpair⟩ := hmatch
      exact huse entry s.identity identity s.kind hpair
  | list items =>
      obtain ⟨others, rfl, -⟩ := hmatch
      exact couples_throw _
  | map entries =>
      obtain ⟨others, rfl, -⟩ := hmatch
      exact couples_throw _
  | _ =>
      obtain rfl : v' = _ := hmatch
      exact couples_throw _

/-- The sources of a dataset in related worlds are of one kind, under related identities. -/
theorem couples_source (name : String) :
    Couples T (fun s s' => Value.Matches R (.source s) (.source s'))
      ((BuiltIn.catalog datasets initialised).source name)
      ((BuiltIn.catalog datasets initialised).source name) := by
  rw [source_eq_withSource]
  exact couples_withSource alike datasets hinitialised name fun _ i j kind hpair =>
    couples_pure ⟨j, rfl, hpair⟩

theorem couples_validate (judged : JudgesAlike R T) (name : String) :
    Couples T Eq ((BuiltIn.catalog datasets initialised).validate name)
      ((BuiltIn.catalog datasets initialised).validate name) :=
  couples_withSource alike datasets hinitialised name fun entry _ _ kind hpair =>
    Builder.couples_validate alike hinitialised judged hpair kind name entry.validations

end Catalog

end DataCatalog
