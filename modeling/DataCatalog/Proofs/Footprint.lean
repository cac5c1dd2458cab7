import DataCatalog.Proofs.AskedArguments
import DataCatalog.Proofs.FileReplacement
import DataCatalog.Proofs.Phases
import DataCatalog.Proofs.Runs

/-!
# What a use of a catalog leaves alone

The built-in callables change the world in one way only: they give out new identities and payloads
to go with them.  `World.Grows` is what is left of a world then: its files and variables, and the
payload of every identity that was given out before.

Main statements: `Catalog.growing_validate` and `Catalog.growing_readWith` say that validating and
reading only add to a world, `Catalog.new_of_buildSource` that the source of a dataset is a new one,
and `Catalog.run_write_changes` that writing adds to the payloads and replaces a file at most.
-/

set_option autoImplicit false

namespace DataCatalog

/-! ## Worlds that grow -/

namespace MemoryStore

/-- Nothing is held under identities that were not given out. -/
def Unused (store : MemoryStore) : Prop :=
  ∀ identity, store.next ≤ identity → store.payload identity = .null

/-- A store in which further identities were given out, and that holds under those given out before
what it held. -/
structure Extends (before after : MemoryStore) : Prop where
  next : before.next ≤ after.next
  payload : ∀ identity, identity < before.next →
    after.payload identity = before.payload identity
  unused : before.Unused → after.Unused

namespace Extends

variable {before middle after : MemoryStore}

theorem refl (store : MemoryStore) : Extends store store :=
  ⟨Nat.le_refl _, fun _ _ => rfl, id⟩

theorem trans (h : Extends before middle) (h' : Extends middle after) : Extends before after where
  next := Nat.le_trans h.next h'.next
  payload identity hlt := by
    rw [h'.payload identity (Nat.lt_of_lt_of_le hlt h.next), h.payload identity hlt]
  unused hunused := h'.unused (h.unused hunused)

end Extends

/-- The store after an identity was given out. -/
def advance (store : MemoryStore) : MemoryStore :=
  { store with next := store.next + 1 }

theorem extends_advance (store : MemoryStore) : store.Extends store.advance where
  next := Nat.le_succ _
  payload _ _ := rfl
  unused h identity hle := h identity (Nat.le_of_succ_le hle)

/-- What is given to an identity that was not there before is no change to the others. -/
theorem extends_setPayload {before after : MemoryStore} (h : before.Extends after) {identity : Nat}
    (hnew : before.next ≤ identity) (hgiven : identity < after.next) (data : Value) :
    before.Extends (after.setPayload identity data) where
  next := h.next
  payload other hlt := by
    have hne : other ≠ identity := by omega
    rw [payload_setPayload, if_neg hne, h.payload other hlt]
  unused hunused other hle := by
    have hlater : after.next ≤ other := hle
    have hne : other ≠ identity := by omega
    rw [payload_setPayload, if_neg hne]
    exact h.unused hunused other hlater

end MemoryStore

/-- A world in which nothing happened but that further identities were given out. -/
structure World.Grows (before after : World) : Prop where
  files : after.files = before.files
  «variables» : after.variables = before.variables
  memory : before.memory.Extends after.memory

namespace World.Grows

variable {before middle after : World}

theorem refl (w : World) : Grows w w := ⟨rfl, rfl, .refl _⟩

theorem trans (h : Grows before middle) (h' : Grows middle after) : Grows before after :=
  ⟨h'.files.trans h.files, h'.variables.trans h.variables, h.memory.trans h'.memory⟩

end World.Grows

/-! ## Computations under which a world grows -/

section Computations

variable {ε ε' α β : Type}

/-- A computation under which every world grows, whether it succeeds or not. -/
def Growing (x : ExceptT ε (StateM World) α) : Prop :=
  ∀ w : World, w.Grows (x.run.run w).2

theorem growing_pure (a : α) : Growing (pure a : ExceptT ε (StateM World) α) :=
  fun w => .refl w

theorem growing_throw (e : ε) : Growing (throw e : ExceptT ε (StateM World) α) :=
  fun w => .refl w

theorem growing_liftExcept (x : Except ε α) :
    Growing (liftM x : ExceptT ε (StateM World) α) :=
  fun w => .refl w

theorem growing_liftM {x : StateM World α} (h : ∀ w : World, w.Grows (x.run w).2) :
    Growing (liftM x : ExceptT ε (StateM World) α) :=
  h

theorem growing_adapt {x : ExceptT ε (StateM World) α} (hx : Growing x) (g : ε → ε') :
    Growing (ExceptT.adapt g x) :=
  hx

/-- One computation after another lets a world grow if both do. -/
theorem growing_bind {x : ExceptT ε (StateM World) α} {f : α → ExceptT ε (StateM World) β}
    (hx : Growing x) (hf : ∀ a, Growing (f a)) : Growing (x >>= f) := by
  intro w
  have hfirst := hx w
  rcases hrun : x.run.run w with ⟨outcome, t⟩
  rw [hrun] at hfirst
  cases outcome with
  | error e =>
      rw [run_bind_error f hrun]
      exact hfirst
  | ok a =>
      rw [run_bind_ok f hrun]
      exact hfirst.trans (hf a t)

end Computations

/-! ## The built-in callables -/

namespace BuiltIn

/-- What recipes of built-in callables are built with in a world. -/
abbrev builder (initialised : Dict Value) : Builder (StateM World) := ⟨registry, initialised⟩

/-- A catalog of built-in callables in a world. -/
abbrev catalog (datasets : Dict DatasetEntry) (initialised : Dict Value) : Catalog (StateM World) :=
  ⟨datasets, registry, initialised⟩

end BuiltIn

namespace MemorySource

/-- A payload becomes a source with a new identity that holds it. -/
theorem run_factory (args : Arguments) (w : World) :
    (factory args : ExceptT CallError (StateM World) Value).run.run w =
      match args.read described with
      | .error e => (.error e, w)
      | .ok data =>
          (.ok (.source ⟨w.memory.next, .memory⟩),
            { w with memory := w.memory.advance.setPayload w.memory.next data }) := by
  unfold factory
  cases args.read described with
  | error e => rfl
  | ok data => rfl

end MemorySource

namespace FileSource

/-- A file becomes a source with a new identity; the file itself is not looked at. -/
theorem run_factory (args : Arguments) (w : World) :
    (factory args : ExceptT CallError (StateM World) Value).run.run w =
      match args.read described with
      | .error e => (.error e, w)
      | .ok (path, format) =>
          (.ok (.source ⟨w.memory.next, .file path format⟩),
            { w with memory := w.memory.advance }) := by
  unfold factory
  cases args.read described with
  | error e => rfl
  | ok found => rfl

end FileSource

/-- A file is replaced by the text of the data, or nothing happens. -/
theorem FileSource.run_write (path : String) (format : FileFormat) (data : Value) (w : World) :
    (write path format data : ExceptT CallError (StateM World) Unit).run.run w =
      match format.encode w.memory.describe data with
      | .error e => (.error e, w)
      | .ok text =>
          match w.files.replace path text with
          | .ok files => (.ok (), { w with files })
          | .error blamed => (.error (complaint blamed.lossy), w) := by
  unfold write
  rw [run_liftM_bind]
  have hdescribe : (Memory.descriptions : StateM World (Source → String)).run w =
      (w.memory.describe, w) := rfl
  rw [hdescribe]
  cases format.encode w.memory.describe data with
  | error e => rfl
  | ok text =>
      dsimp only
      rw [run_liftM_bind]
      have hreplace : (Files.replace path text : StateM World (Except SystemText Unit)).run w =
          match w.files.replace path text with
          | .ok files => (.ok (), { w with files })
          | .error blamed => (.error blamed, w) := rfl
      rw [hreplace]
      cases w.files.replace path text with
      | ok files => rfl
      | error blamed => rfl

/-- A write that fails changes nothing, and one that succeeds has replaced the file. -/
theorem FileSource.write_cases (path : String) (format : FileFormat) (data : Value) (w : World) :
    let written := (write path format data : ExceptT CallError (StateM World) Unit).run.run w
    (∃ e, written = (.error e, w)) ∨
      ∃ content files, format.encode w.memory.describe data = .ok content ∧
        w.files.replace path content = .ok files ∧ written = (.ok (), { w with files }) := by
  intro written
  have hrun : written = _ := run_write path format data w
  cases hencode : format.encode w.memory.describe data with
  | error e =>
      rw [hencode] at hrun
      exact .inl ⟨e, hrun⟩
  | ok content =>
      rw [hencode] at hrun
      dsimp only at hrun
      cases hreplace : w.files.replace path content with
      | error blamed =>
          rw [hreplace] at hrun
          exact .inl ⟨complaint blamed.lossy, hrun⟩
      | ok files =>
          rw [hreplace] at hrun
          exact .inr ⟨content, files, rfl, hreplace, hrun⟩

/-- A file is read as its text is decoded; nothing changes. -/
theorem FileSource.run_read (path : String) (format : FileFormat) (w : World) :
    (read path format : ExceptT CallError (StateM World) Value).run.run w =
      (match w.files.readText path with
        | some content => format.decode content
        | none => .error (complaint path), w) := by
  unfold read
  rw [run_liftM_bind]
  have htext : (Files.readText path : StateM World (Option String)).run w =
      (w.files.readText path, w) := rfl
  rw [htext]
  cases w.files.readText path with
  | some content => rfl
  | none => rfl

namespace BuiltIn

/-- A factory that lets the world grow and builds nothing but new sources. -/
structure BuildsNew (factory : Arguments → ExceptT CallError (StateM World) Value) : Prop where
  growing : ∀ args, Growing (factory args)
  new : ∀ args w v t, (factory args).run.run w = (.ok v, t) →
    ∃ kind, v = .source ⟨w.memory.next, kind⟩ ∧ w.memory.next < t.memory.next

theorem buildsNew_memory : BuildsNew MemorySource.factory where
  growing args w := by
    rw [MemorySource.run_factory]
    cases args.read MemorySource.described with
    | error e => exact .refl w
    | ok data =>
        refine ⟨rfl, rfl, ?_⟩
        exact MemoryStore.extends_setPayload w.memory.extends_advance (Nat.le_refl _)
          (Nat.lt_succ_self _) data
  new args w v t h := by
    rw [MemorySource.run_factory] at h
    cases hread : args.read MemorySource.described with
    | error e =>
        rw [hread] at h
        cases h
    | ok data =>
        rw [hread] at h
        cases h
        exact ⟨.memory, rfl, Nat.lt_succ_self _⟩

theorem buildsNew_file : BuildsNew FileSource.factory where
  growing args w := by
    rw [FileSource.run_factory]
    cases args.read FileSource.described with
    | error e => exact .refl w
    | ok found => exact ⟨rfl, rfl, w.memory.extends_advance⟩
  new args w v t h := by
    rw [FileSource.run_factory] at h
    cases hread : args.read FileSource.described with
    | error e =>
        rw [hread] at h
        cases h
    | ok found =>
        rw [hread] at h
        cases h
        exact ⟨.file found.1 found.2, rfl, Nat.lt_succ_self _⟩

/-- Every built-in factory builds new sources. -/
theorem buildsNew_of_resolve {reference : String}
    {factory : Arguments → ExceptT CallError (StateM World) Value}
    (h : (registry : Registry (StateM World)).resolveFactory reference = .ok factory) :
    BuildsNew factory := by
  rcases factory_of_resolve h with rfl | rfl
  · exact buildsNew_memory
  · exact buildsNew_file

end BuiltIn

/-- Looking at a world lets it grow. -/
theorem growing_look {ε α : Type} {x : StateM World α} (h : ∀ w : World, (x.run w).2 = w) :
    Growing (liftM x : ExceptT ε (StateM World) α) :=
  growing_liftM fun w => by rw [h w]; exact .refl w

namespace Validator

theorem growing_wrongKind (validator judged : String) (source : Source) :
    Growing (wrongKind validator judged source : ExceptT CallError (StateM World) Verdict) :=
  growing_bind (growing_look fun _ => rfl) fun _ => growing_throw _

theorem growing_notEmpty (source : Source) (args : Arguments) :
    Growing (notEmpty source args : ExceptT CallError (StateM World) Verdict) := by
  unfold notEmpty
  cases args.read ArgumentReader.finish with
  | error e => exact growing_throw e
  | ok _ =>
      dsimp only
      cases source.kind with
      | file path format => exact growing_bind (growing_look fun _ => rfl) fun _ => growing_pure _
      | memory => exact growing_bind (growing_look fun _ => rfl) fun _ => growing_pure _
      | foreign typeName writable => exact growing_wrongKind _ _ source

theorem growing_lengthWithin (validator boundName : String) (judge : (length bound : Nat) → Verdict)
    (source : Source) (args : Arguments) :
    Growing (lengthWithin validator boundName judge source args :
      ExceptT CallError (StateM World) Verdict) := by
  unfold lengthWithin
  cases args.read (bound boundName) with
  | error e => exact growing_throw e
  | ok n =>
      dsimp only
      cases source.kind with
      | memory =>
          refine growing_bind (growing_look fun _ => rfl) fun payload => ?_
          cases payload.size? with
          | none => exact growing_pure _
          | some length => exact growing_pure _
      | file path format => exact growing_wrongKind _ _ source
      | foreign typeName writable => exact growing_wrongKind _ _ source

theorem growing_fileExists (source : Source) (args : Arguments) :
    Growing (fileExists source args : ExceptT CallError (StateM World) Verdict) := by
  unfold fileExists
  cases args.read ArgumentReader.finish with
  | error e => exact growing_throw e
  | ok _ =>
      dsimp only
      cases source.kind with
      | file path format => exact growing_bind (growing_look fun _ => rfl) fun _ => growing_pure _
      | memory => exact growing_wrongKind _ _ source
      | foreign typeName writable => exact growing_wrongKind _ _ source

end Validator

theorem BuiltIn.growing_validator {reference : String}
    {validator : Source → Arguments → ExceptT CallError (StateM World) Verdict}
    (h : (registry : Registry (StateM World)).resolveValidator reference = .ok validator)
    (source : Source) (args : Arguments) : Growing (validator source args) := by
  rcases validator_of_resolve h with rfl | rfl | rfl | rfl
  · exact Validator.growing_notEmpty source args
  · exact Validator.growing_lengthWithin _ _ _ source args
  · exact Validator.growing_lengthWithin _ _ _ source args
  · exact Validator.growing_fileExists source args

/-! ## Building and validating -/

namespace Builder

variable (initialised : Dict Value)

mutual

/-- Resolving a configuration with built-in callables only adds to a world. -/
theorem growing_resolve (p : Position) : (n : Node) →
    Growing ((BuiltIn.builder initialised).resolve p n)
  | .null => growing_pure _
  | .bool _ => growing_pure _
  | .int _ => growing_pure _
  | .float _ => growing_pure _
  | .string _ => growing_pure _
  | .seq items => growing_bind (growing_resolveItems p 0 items) fun _ => growing_pure _
  | .map entries => growing_bind (growing_resolveEntries p entries) fun _ => growing_pure _
  | .recipe callable args => by
      have hargs := growing_resolveEntries (p.key Recipe.argsKey) args
      rw [resolve]
      cases hfound : (BuiltIn.registry : Registry (StateM World)).resolveFactory callable with
      | error e => exact growing_throw _
      | ok factory =>
          refine growing_bind hargs fun explicit => growing_adapt ?_ _
          exact (BuiltIn.buildsNew_of_resolve hfound).growing _

theorem growing_resolveItems (p : Position) (i : Nat) : (items : List Node) →
    Growing ((BuiltIn.builder initialised).resolveItems p i items)
  | [] => growing_pure _
  | n :: rest => growing_bind (growing_resolve (p.index i) n) fun _ =>
      growing_bind (growing_resolveItems p (i + 1) rest) fun _ => growing_pure _

theorem growing_resolveEntries (p : Position) : (entries : List (String × Node)) →
    Growing ((BuiltIn.builder initialised).resolveEntries p entries)
  | [] => growing_pure _
  | (k, n) :: rest => growing_bind (growing_resolve (p.key k) n) fun _ =>
      growing_bind (growing_resolveEntries p rest) fun _ => growing_pure _

end

theorem growing_resolveArgs (p : Position) (r : Recipe) :
    Growing ((BuiltIn.builder initialised).resolveArgs p r) :=
  growing_bind (growing_resolveEntries initialised _ r.args) fun _ => growing_pure _

/-- What a built-in recipe builds is a source that was not there before. -/
theorem new_of_build {p : Position} {r : Recipe} {w t : World} {v : Value}
    (h : ((BuiltIn.builder initialised).build p r).run.run w =
      (.ok v, t)) :
    ∃ identity kind, v = .source ⟨identity, kind⟩ ∧ w.memory.next ≤ identity ∧
      identity < t.memory.next := by
  unfold build Recipe.node at h
  rw [resolve] at h
  cases hfound : (BuiltIn.registry : Registry (StateM World)).resolveFactory r.callable with
  | error e =>
      rw [hfound] at h
      cases h
  | ok factory =>
      rw [hfound] at h
      obtain ⟨explicit, middle, hargs, hcall⟩ := run_bind_eq_ok h
      have hgrown := growing_resolveEntries initialised (p.key Recipe.argsKey) r.args w
      rw [hargs] at hgrown
      obtain ⟨kind, rfl, hlt⟩ :=
        (BuiltIn.buildsNew_of_resolve hfound).new _ _ _ _ (run_adapt_eq_ok hcall)
      exact ⟨middle.memory.next, kind, rfl, hgrown.memory.next, hlt⟩

/-- A judgement lets the world grow like the validator that gives it. -/
theorem growing_judge {ε : Type}
    {validator : Source → Arguments → ExceptT CallError (StateM World) Verdict} {source : Source}
    {args : Arguments} (h : Growing (validator source args)) :
    Growing (ExceptT.lift (judge validator source args) : ExceptT ε (StateM World) Verdict) := by
  rw [judge_eq_map]
  exact h

theorem growing_runValidators (p : Position) (source : Source) (i : Nat)
    (validations : List Recipe) :
    Growing ((BuiltIn.builder initialised).runValidators p source i
      validations) := by
  induction validations generalizing i with
  | nil => exact growing_pure _
  | cons r rest ih =>
      rw [runValidators]
      cases hfound : (BuiltIn.registry : Registry (StateM World)).resolveValidator r.callable with
      | error e => exact growing_throw _
      | ok validator =>
          refine growing_bind (growing_resolveArgs initialised _ r) fun args => ?_
          refine growing_bind ?_ fun verdict => growing_bind (ih (i + 1)) fun _ => growing_pure _
          exact growing_judge (BuiltIn.growing_validator hfound source args)

theorem growing_validate (dataset : String) (source : Source) (validations : List Recipe) :
    Growing ((BuiltIn.builder initialised).validate dataset source
      validations) :=
  growing_bind (growing_runValidators initialised _ source 0 validations) fun _ => growing_pure _

end Builder

/-! ## Using a catalog -/

namespace BuiltIn

theorem growing_read (source : Source) :
    Growing (read source : ExceptT CallError (StateM World) Value) := by
  unfold read
  cases source.kind with
  | file path format =>
      refine growing_bind (growing_look fun _ => rfl) fun content => ?_
      cases content with
      | none => exact growing_throw _
      | some text => exact growing_liftExcept _
  | memory => exact growing_look fun _ => rfl
  | foreign typeName writable => exact growing_throw _

end BuiltIn

namespace Catalog

variable (datasets : Dict DatasetEntry) (initialised : Dict Value)

theorem growing_buildSource (name : String) (entry : DatasetEntry) :
    Growing ((BuiltIn.catalog datasets initialised).buildSource name
      entry) := by
  rw [buildSource_eq]
  refine growing_bind (Builder.growing_resolve initialised _ entry.source.node) fun v => ?_
  cases v with
  | source source => exact growing_pure _
  | _ => exact growing_throw _

theorem growing_withSource {α : Type} {name : String}
    {use : DatasetEntry → Source → ExceptT CatalogError (StateM World) α}
    (h : ∀ entry source, Growing (use entry source)) :
    Growing ((BuiltIn.catalog datasets initialised).withSource name
      use) :=
  growing_bind (growing_liftExcept _) fun entry =>
    growing_bind (growing_buildSource datasets initialised name entry) (h entry)

theorem growing_source (name : String) :
    Growing ((BuiltIn.catalog datasets initialised).source name) := by
  rw [source_eq_withSource]
  exact growing_withSource datasets initialised fun _ _ => growing_pure _

theorem growing_validate (name : String) :
    Growing ((BuiltIn.catalog datasets initialised).validate name) :=
  growing_withSource datasets initialised fun entry source =>
    Builder.growing_validate initialised name source entry.validations

/-- Reading only adds to a world. -/
theorem growing_readWith (name : String) (skipValidation : Bool) :
    Growing ((BuiltIn.catalog datasets initialised).readWith name
      skipValidation) := by
  rw [readWith_eq_withSource]
  refine growing_withSource datasets initialised fun entry source => ?_
  have hfetch := growing_adapt (BuiltIn.growing_read source) (CatalogError.sourceRead name)
  unfold fetch
  cases skipValidation with
  | true => exact hfetch
  | false =>
      refine growing_bind (Builder.growing_validate initialised name source _) fun report => ?_
      unfold deliver
      cases report.result with
      | ok _ => exact hfetch
      | error e => exact growing_throw _

theorem growing_readNames (names : List String) :
    Growing ((BuiltIn.catalog datasets initialised).readNames
      names) := by
  induction names with
  | nil => exact growing_pure _
  | cons name rest ih =>
      exact growing_bind (growing_readWith datasets initialised name false) fun _ =>
        growing_bind ih fun _ => growing_pure _

/-- The source of a dataset is a new one. -/
theorem new_of_buildSource {name : String} {entry : DatasetEntry} {w t : World} {source : Source}
    (h : ((BuiltIn.catalog datasets initialised).buildSource name entry).run.run w =
      (.ok source, t)) : w.memory.next ≤ source.identity ∧ source.identity < t.memory.next := by
  rw [buildSource_eq] at h
  obtain ⟨v, middle, hbuild, hsource⟩ := run_bind_eq_ok h
  obtain ⟨identity, kind, rfl, hle, hlt⟩ := Builder.new_of_build initialised hbuild
  cases hsource
  exact ⟨hle, hlt⟩

theorem new_of_source {name : String} {w t : World} {source : Source}
    (h : ((BuiltIn.catalog datasets initialised).source name).run.run w = (.ok source, t)) :
    w.memory.next ≤ source.identity ∧ source.identity < t.memory.next := by
  obtain ⟨entry, middle, hfind, hbuild⟩ := run_bind_eq_ok h
  obtain rfl : w = middle := (Prod.mk.inj hfind).2
  exact new_of_buildSource datasets initialised hbuild

/-- Writing adds to the payloads of a world, and replaces a file at most: the one of the dataset, if
that is a file, when the write succeeds. -/
theorem run_write_changes (name : String) (data : Value) (w : World) :
    let written := ((BuiltIn.catalog datasets initialised).write name data).run.run w
    w.memory.Extends written.2.memory ∧ written.2.variables = w.variables ∧
      (written.2.files = w.files ∨ ∃ identity path format text, written.1 = .ok () ∧
        (((BuiltIn.catalog datasets initialised).source name).run.run w).1 =
          .ok ⟨identity, .file path format⟩ ∧
        format.encode written.2.memory.describe data = .ok text ∧
        w.files.Replaced path text written.2.files) := by
  intro written
  have hgrown := growing_source datasets initialised name w
  have hwritten : written = ((BuiltIn.catalog datasets initialised).source name >>=
    fun source => store name data source).run.run w := rfl
  rcases hsource : ((BuiltIn.catalog datasets initialised).source name).run.run w with
    ⟨outcome, t⟩
  rw [hsource] at hgrown
  cases outcome with
  | error e =>
      rw [run_bind_error _ hsource] at hwritten
      rw [hwritten]
      exact ⟨hgrown.memory, hgrown.variables, .inl hgrown.files⟩
  | ok source =>
      rw [run_bind_ok _ hsource] at hwritten
      obtain ⟨hnew, hgiven⟩ := new_of_source datasets initialised hsource
      obtain ⟨identity, kind⟩ := source
      cases kind with
      | memory =>
          have hset : written =
              (.ok (), { t with memory := t.memory.setPayload identity data }) := hwritten
          rw [hset]
          exact ⟨MemoryStore.extends_setPayload hgrown.memory hnew hgiven data, hgrown.variables,
            .inl hgrown.files⟩
      | foreign typeName writable =>
          have hunchanged : written.2 = t := by
            rw [hwritten]
            cases writable <;> rfl
          rw [hunchanged]
          exact ⟨hgrown.memory, hgrown.variables, .inl hgrown.files⟩
      | file path format =>
          have hstored : written =
              (((FileSource.write path format data : ExceptT CallError (StateM World) Unit).run.run
                t).1.mapError (.sourceWrite name),
                ((FileSource.write path format data :
                  ExceptT CallError (StateM World) Unit).run.run t).2) := hwritten
          rcases FileSource.write_cases path format data t with
            ⟨e, hfailed⟩ | ⟨text, files, hencode, hreplace, hdone⟩
          · rw [hfailed] at hstored
            rw [hstored]
            exact ⟨hgrown.memory, hgrown.variables, .inl hgrown.files⟩
          · rw [hdone] at hstored
            rw [hstored]
            have hreplaced := FileStore.replaced_of_replace hreplace
            rw [hgrown.files] at hreplaced
            exact ⟨hgrown.memory, hgrown.variables,
              .inr ⟨identity, path, format, text, rfl, rfl, hencode, hreplaced⟩⟩

end Catalog

end DataCatalog
