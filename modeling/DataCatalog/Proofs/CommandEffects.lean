import DataCatalog.CommandLine.Run
import DataCatalog.Proofs.Footprint
import DataCatalog.Proofs.Precedence

/-!
# What commands touch and print

A command loads its configuration, which changes nothing, and then does one thing.  Whatever fails,
fails before anything is printed, and the only command that touches a file is `params` with an
output file, which it replaces last.

Main statements: `Builder.passesAll_iff` says when all validators of a dataset pass, step by step,
and `CommandLine.effects` what every command line leaves of the files, what it prints when it fails,
and when a validation succeeds.
-/

set_option autoImplicit false

namespace DataCatalog

/-! ## Validators that all pass -/

namespace Builder

variable {σ : Type}

/-- Every validator from an index on is found, has its arguments resolved and passes, one after the
other. -/
inductive PassesAll (b : Builder (StateM σ)) (p : Position) (source : Source) :
    Nat → List Recipe → σ → Prop where
  | nil {i : Nat} {s : σ} : PassesAll b p source i [] s
  | cons {i : Nat} {r : Recipe} {rest : List Recipe} {s t u : σ} {args : Arguments}
      {validator : Source → Arguments → ExceptT CallError (StateM σ) Verdict}
      (found : b.registry.resolveValidator r.callable = .ok validator)
      (resolved : (b.resolveArgs (p.index i) r).run.run s = (.ok args, t))
      (passes : (validator source args).run.run t = (.ok .pass, u))
      (later : PassesAll b p source (i + 1) rest u) : PassesAll b p source i (r :: rest) s

theorem verdictOf_eq_pass_iff {outcome : Except CallError Verdict} :
    verdictOf outcome = .pass ↔ outcome = .ok .pass := by
  cases outcome with
  | error e => simp [verdictOf]
  | ok verdict => simp [verdictOf]

/-- What a validator says is the judgement in its outcome. -/
theorem run_judge {ε : Type}
    (validator : Source → Arguments → ExceptT CallError (StateM σ) Verdict) (source : Source)
    (args : Arguments) (s : σ) :
    (ExceptT.lift (judge validator source args) : ExceptT ε (StateM σ) Verdict).run.run s =
      (.ok (verdictOf ((validator source args).run.run s).1),
        ((validator source args).run.run s).2) := by
  rw [judge_eq_map]
  rfl

/-- Running the validators gives a report in which all pass if, and only if, each of them can be run
and passes. -/
theorem passesAll_iff (b : Builder (StateM σ)) (p : Position) (source : Source) (i : Nat)
    (validations : List Recipe) (s : σ) :
    b.PassesAll p source i validations s ↔
      ∃ outcomes t, (b.runValidators p source i validations).run.run s = (.ok outcomes, t) ∧
        ∀ o ∈ outcomes, o.verdict = .pass := by
  induction validations generalizing i s with
  | nil =>
      constructor
      · intro _
        exact ⟨[], s, rfl, List.forall_mem_nil _⟩
      · intro _
        exact .nil
  | cons r rest ih =>
      constructor
      · intro h
        obtain ⟨⟩ | ⟨found, resolved, passes, later⟩ := h
        rename_i t u args validator
        obtain ⟨outcomes, w, hrun, hpass⟩ := (ih (i + 1) u).1 later
        have hjudged := run_judge (ε := CatalogError) validator source args t
        rw [passes] at hjudged
        refine ⟨⟨i, r.callable, .pass⟩ :: outcomes, w, ?_, ?_⟩
        · rw [runValidators, found]
          dsimp only
          rw [run_bind_ok _ resolved, run_bind_ok _ hjudged, run_bind_ok _ hrun]
          rfl
        · exact List.forall_mem_cons.2 ⟨rfl, hpass⟩
      · rintro ⟨outcomes, t, hrun, hpass⟩
        rw [runValidators] at hrun
        cases hfound : b.registry.resolveValidator r.callable with
        | error e =>
            rw [hfound] at hrun
            cases hrun
        | ok validator =>
            rw [hfound] at hrun
            obtain ⟨args, u, hargs, hrun⟩ := run_bind_eq_ok hrun
            obtain ⟨verdict, v, hjudged, hrun⟩ := run_bind_eq_ok hrun
            obtain ⟨later, w, hlater, hrun⟩ := run_bind_eq_ok hrun
            cases hrun
            obtain ⟨hfirst, hrest⟩ := List.forall_mem_cons.1 hpass
            rw [run_judge] at hjudged
            obtain ⟨hverdict, rfl⟩ := Prod.mk.inj hjudged
            have hpasses : ((validator source args).run.run u).1 = .ok .pass :=
              verdictOf_eq_pass_iff.1 ((Except.ok.inj hverdict).trans hfirst)
            exact .cons hfound hargs (Prod.ext hpasses rfl)
              ((ih (i + 1) _).2 ⟨later, t, hlater, hrest⟩)

end Builder

namespace Catalog

/-- The source of a dataset is built, and all its validators pass. -/
def Passes {σ : Type} (c : Catalog (StateM σ)) (name : String) (s : σ) : Prop :=
  ∃ entry source t, c.entry? name = some entry ∧
    (c.buildSource name entry).run.run s = (.ok source, t) ∧
    c.builder.PassesAll ((Position.root.key name).key Recipe.validationsKey) source 0
      entry.validations t

theorem passes_iff {σ : Type} (c : Catalog (StateM σ)) (name : String) (s : σ) :
    c.Passes name s ↔
      ∃ report t, (c.validate name).run.run s = (.ok report, t) ∧ report.passed = true := by
  unfold Passes validate
  constructor
  · rintro ⟨entry, source, t, hentry, hbuild, hpasses⟩
    obtain ⟨outcomes, u, hrun, hpass⟩ := (Builder.passesAll_iff _ _ _ _ _ _).1 hpasses
    refine ⟨⟨name, outcomes⟩, u, ?_, ValidationReport.passed_iff.2 hpass⟩
    rw [find_of_entry?_eq_some hentry, liftM_ok_bind, run_bind_ok _ hbuild]
    exact run_bind_ok _ hrun
  · rintro ⟨report, u, hrun, hpass⟩
    obtain ⟨entry, s', hfind, hrun⟩ := run_bind_eq_ok hrun
    obtain ⟨hfound, rfl⟩ := Prod.mk.inj hfind
    obtain ⟨source, t, hbuild, hrun⟩ := run_bind_eq_ok hrun
    obtain ⟨outcomes, v, hvalidators, hreport⟩ := run_bind_eq_ok hrun
    cases hreport
    refine ⟨entry, source, t, entry?_of_find hfound, hbuild, ?_⟩
    exact (Builder.passesAll_iff _ _ _ _ _ _).2
      ⟨outcomes, u, hvalidators, ValidationReport.passed_iff.1 hpass⟩

end Catalog

/-- An error is no success. -/
theorem Outcome.exitCode_error_ne_zero (failure : Failure) : (error failure).exitCode ≠ 0 :=
  Nat.succ_ne_zero 0

namespace CommandLine

open DataCatalog.Configuration

variable {documents : (String → Option String) → Documents}

/-! ## Loading -/

section Loading

variable (documents)

/-- What a command line loads, or why it cannot. -/
def loaded (line : CommandLine) (s : World) : Except Failure (Configuration (StateM World)) :=
  ((configuration documents line.projectDirectory :
    ExceptT Failure (StateM World) (Configuration (StateM World))).run.run s).1

/-- Loading a configuration changes nothing. -/
theorem run_configuration_eq (line : CommandLine) (s : World) :
    (configuration documents line.projectDirectory :
      ExceptT Failure (StateM World) (Configuration (StateM World))).run.run s =
      (line.loaded documents s, s) := by
  unfold loaded
  rw [run_configuration]

end Loading

/-- What a command line offers to every call: the directory of its project, as it is shown. -/
def offered (line : CommandLine) : Dict Value :=
  Dict.empty.insert baseDirectory (.string line.projectDirectory.lossy)

/-- What was loaded has the built-in callables, and offers them the directory. -/
theorem catalog_of_loaded {line : CommandLine} {s : World} {c : Configuration (StateM World)}
    (h : line.loaded documents s = .ok c) :
    ∃ datasets, c.catalog = BuiltIn.catalog datasets line.offered := by
  unfold loaded at h
  rw [run_configuration] at h
  obtain ⟨p, -, hfiles⟩ := bind_eq_ok_iff.1 h
  obtain ⟨layers, hloads⟩ := ofFiles_eq_ok_iff.1 hfiles
  obtain ⟨document, found, -, hdocument, hcatalog⟩ := hloads.catalog
  unfold Catalog.ofDocument at hdocument
  split at hdocument
  · cases hdocument
    exact ⟨_, hcatalog⟩
  · cases hdocument

variable (documents) in
/-- How a command line ends in a world, and the world that it leaves. -/
def ran (line : CommandLine) (s : World) : Outcome × World :=
  (line.run documents : StateM World Outcome).run s

/-- A run loads the configuration, and then does one thing. -/
theorem ran_eq (line : CommandLine) (s : World) :
    line.ran documents s =
      match line.loaded documents s with
      | .error failure => (.error failure, s)
      | .ok c =>
          (match ((execute c line.command).run.run s).1 with
            | .ok outcome => outcome
            | .error failure => .error failure,
            ((execute c line.command).run.run s).2) := by
  have hload := run_configuration_eq documents line s
  unfold ran run
  rw [StateT.run_bind]
  cases hloaded : line.loaded documents s with
  | error failure =>
      rw [hloaded] at hload
      rw [run_bind_error _ hload]
      rfl
  | ok c =>
      rw [hloaded] at hload
      rw [run_bind_ok _ hload]
      dsimp only
      rcases (execute c line.command).run.run s with ⟨outcome, t⟩
      cases outcome with
      | error failure => rfl
      | ok outcome => rfl

/-! ## What a command does -/

/-- Everything but writing parameters only adds to a world. -/
theorem growing_execute {line : CommandLine} {s : World} {c : Configuration (StateM World)}
    (hloaded : line.loaded documents s = .ok c) {command : Command}
    (h : ∀ path, command ≠ .params (some path)) : Growing (execute c command) := by
  obtain ⟨datasets, hcatalog⟩ := catalog_of_loaded hloaded
  cases command with
  | list => exact growing_pure _
  | inspect => exact growing_pure _
  | read dataset skipValidation format =>
      unfold execute
      rw [hcatalog]
      exact growing_bind
        (growing_adapt (Catalog.growing_readWith datasets line.offered dataset skipValidation) _)
        fun _ => growing_bind (growing_look fun _ => rfl) fun _ => growing_pure _
  | validate dataset =>
      unfold execute
      rw [hcatalog]
      exact growing_bind
        (growing_adapt (Catalog.growing_validate datasets line.offered dataset) _)
        fun _ => growing_pure _
  | params output =>
      cases output with
      | none => exact growing_pure _
      | some path => exact absurd rfl (h path)

/-- Writing parameters replaces the file by what would be printed, or fails. -/
theorem run_params (c : Configuration (StateM World)) (path : SystemText) (s : World) :
    (execute c (.params (some path))).run.run s =
      match s.files.replace path (Yaml.write (.map c.parameters)) with
      | .ok files =>
          (.ok (.success (printLines ["✨ Parameters written to " ++ path.lossy])),
            { s with files })
      | .error blamed => (.error (.setup (.io blamed.lossy)), s) := by
  unfold execute
  rw [run_liftM_bind]
  have hreplace : (Files.replace path (Yaml.write (.map c.parameters)) :
      StateM World (Except SystemText Unit)).run s =
        match s.files.replace path (Yaml.write (.map c.parameters)) with
        | .ok files => (.ok (), { s with files })
        | .error blamed => (.error blamed, s) := rfl
  rw [hreplace]
  cases s.files.replace path (Yaml.write (.map c.parameters)) with
  | ok files => rfl
  | error blamed => rfl

/-- A validation ends well if, and only if, all validators passed. -/
theorem exitCode_reportOutcome_iff {dataset : String} {r : ValidationReport} :
    (reportOutcome dataset r).exitCode = 0 ↔ r.passed = true := by
  unfold reportOutcome
  cases hempty : r.outcomes.isEmpty with
  | true =>
      have hnil := List.isEmpty_iff.1 hempty
      simp [Outcome.success, ValidationReport.passed, hnil]
  | false =>
      cases hpassed : r.passed with
      | true => simp [Outcome.success]
      | false => simp

/-- A validation prints its judgements even if it fails; then a validator did not pass. -/
theorem failed_of_reportOutcome {dataset : String} {r : ValidationReport}
    (h : (reportOutcome dataset r).exitCode ≠ 0) : ∃ o ∈ r.outcomes, o.verdict ≠ .pass := by
  by_contra hall
  push Not at hall
  exact h (exitCode_reportOutcome_iff.2 (ValidationReport.passed_iff.2 hall))

/-- A command that fails prints nothing, unless it is a validation with a validator that fails. -/
theorem run_execute_of_ne_zero {c : Configuration (StateM World)} {command : Command}
    {s t : World} {outcome : Outcome}
    (h : (execute c command).run.run s = (.ok outcome, t)) (hcode : outcome.exitCode ≠ 0) :
    ∃ dataset report, command = .validate dataset ∧
      (c.catalog.validate dataset).run.run s = (.ok report, t) ∧
      ∃ o ∈ report.outcomes, o.verdict ≠ .pass := by
  cases command with
  | list =>
      cases h
      exact absurd rfl hcode
  | inspect =>
      cases h
      exact absurd rfl hcode
  | read dataset skipValidation format =>
      obtain ⟨data, u, -, h⟩ := run_bind_eq_ok h
      obtain ⟨describe, v, -, h⟩ := run_bind_eq_ok h
      cases h
      exact absurd rfl hcode
  | validate dataset =>
      obtain ⟨report, u, hreport, h⟩ := run_bind_eq_ok h
      cases h
      exact ⟨dataset, report, rfl, run_adapt_eq_ok hreport, failed_of_reportOutcome hcode⟩
  | params output =>
      cases output with
      | none =>
          cases h
          exact absurd rfl hcode
      | some path =>
          rw [run_params] at h
          split at h
          · cases h
            exact absurd rfl hcode
          · cases h

variable (documents) in
/-- What a command line leaves of a world, and how it ends there. -/
structure Effects (line : CommandLine) (s : World) (ended : Outcome × World) : Prop where
  /-- No file is touched, except by parameters that are written to one. -/
  kept : (∀ path, line.command ≠ .params (some path)) ∨ ended.1.exitCode ≠ 0 →
    ended.2.files = s.files
  /-- The file then has the text that is printed without one. -/
  replaced : ∀ path, line.command = .params (some path) → ended.1.exitCode = 0 →
    ∃ printed, (ran documents { line with command := .params none } s).1 = .success printed ∧
      s.files.Replaced path printed ended.2.files
  /-- Only a validation with a validator that did not pass fails and prints. -/
  silent : ended.1.exitCode ≠ 0 → ended.1.output = "" ∨
    ∃ dataset c report, line.command = .validate dataset ∧ line.loaded documents s = .ok c ∧
      (c.catalog.validate dataset).run.run s = (.ok report, ended.2) ∧
      ∃ o ∈ report.outcomes, o.verdict ≠ .pass
  /-- A validation ends well if the dataset can be loaded and built and all its validators pass. -/
  validated : ∀ dataset, line.command = .validate dataset →
    (ended.1.exitCode = 0 ↔ ∃ c, line.loaded documents s = .ok c ∧ c.catalog.Passes dataset s)

/-- A command line whose configuration cannot be loaded leaves everything as it is. -/
theorem effects_of_error {line : CommandLine} {s : World} {failure : Failure}
    (h : line.loaded documents s = .error failure) :
    Effects documents line s (.error failure, s) where
  kept _ := rfl
  replaced _ _ hcode := absurd hcode (Outcome.exitCode_error_ne_zero _)
  silent _ := .inl rfl
  validated dataset _ := by
    constructor
    · intro hcode
      exact absurd hcode (Outcome.exitCode_error_ne_zero _)
    · rintro ⟨c, hc, -⟩
      rw [h] at hc
      cases hc

/-- Writing the parameters of a configuration to a file replaces it, or touches nothing. -/
theorem effects_params {line : CommandLine} {s : World} {c : Configuration (StateM World)}
    {path : SystemText} (hloaded : line.loaded documents s = .ok c)
    (hcommand : line.command = .params (some path)) :
    Effects documents line s (line.ran documents s) := by
  have hprinted : (ran documents { line with command := .params none } s).1 =
      .success (Yaml.write (.map c.parameters)) := by
    have hsame : ({ line with command := .params none } : CommandLine).loaded documents s =
        .ok c := hloaded
    rw [ran_eq, hsame]
    rfl
  rw [ran_eq, hloaded, hcommand]
  dsimp only
  rw [run_params]
  cases hreplace : s.files.replace path (Yaml.write (.map c.parameters)) with
  | error blamed =>
      refine ⟨fun _ => rfl, ?_, fun _ => .inl rfl, ?_⟩
      · intro _ _ hcode
        exact absurd hcode (Outcome.exitCode_error_ne_zero _)
      · intro dataset hvalidate
        rw [hcommand] at hvalidate
        cases hvalidate
  | ok files =>
      refine ⟨?_, ?_, ?_, ?_⟩
      · rintro (hother | hcode)
        · exact absurd hcommand (hother path)
        · exact absurd rfl hcode
      · intro path' hpath _
        rw [hcommand] at hpath
        cases hpath
        exact ⟨_, hprinted, FileStore.replaced_of_replace hreplace⟩
      · intro hcode
        exact absurd rfl hcode
      · intro dataset hvalidate
        rw [hcommand] at hvalidate
        cases hvalidate

/-- A validation of a loaded dataset succeeds if its validators pass. -/
theorem exitCode_validate_iff {line : CommandLine} {s : World} {c : Configuration (StateM World)}
    {dataset : String} (hloaded : line.loaded documents s = .ok c)
    (hcommand : line.command = .validate dataset) :
    (line.ran documents s).1.exitCode = 0 ↔ c.catalog.Passes dataset s := by
  rw [ran_eq, hloaded, hcommand, Catalog.passes_iff]
  dsimp only
  unfold execute
  rcases hrun : (c.catalog.validate dataset).run.run s with ⟨outcome, t⟩
  have hadapted : (ExceptT.adapt Failure.catalog (c.catalog.validate dataset)).run.run s =
      (outcome.mapError Failure.catalog, t) := by
    rw [run_adapt, hrun]
  cases outcome with
  | error e =>
      rw [run_bind_error _ hadapted]
      constructor
      · intro hcode
        exact absurd hcode (Outcome.exitCode_error_ne_zero _)
      · rintro ⟨report, u, heq, -⟩
        cases heq
  | ok report =>
      rw [run_bind_ok _ hadapted]
      constructor
      · intro hcode
        exact ⟨report, t, rfl, exitCode_reportOutcome_iff.1 hcode⟩
      · rintro ⟨report', u, heq, hpassed⟩
        cases heq
        exact exitCode_reportOutcome_iff.2 hpassed

/-- A command other than writing parameters touches no file, and prints only once nothing can fail
any more. -/
theorem effects_of_ok {line : CommandLine} {s : World} {c : Configuration (StateM World)}
    (hloaded : line.loaded documents s = .ok c)
    (hcommand : ∀ path, line.command ≠ .params (some path)) :
    Effects documents line s (line.ran documents s) := by
  have hgrows := growing_execute hloaded hcommand s
  refine ⟨?_, fun path hpath => absurd hpath (hcommand path), ?_, ?_⟩
  · intro _
    rw [ran_eq, hloaded]
    exact hgrows.files
  · rw [ran_eq, hloaded]
    dsimp only
    rcases hrun : (execute c line.command).run.run s with ⟨outcome, t⟩
    cases outcome with
    | error failure => exact fun _ => .inl rfl
    | ok outcome =>
        intro hcode
        obtain ⟨dataset, report, hvalidate, hreport, hfailed⟩ :=
          run_execute_of_ne_zero hrun hcode
        exact .inr ⟨dataset, c, report, hvalidate, rfl, hreport, hfailed⟩
  · intro dataset hvalidate
    rw [exitCode_validate_iff hloaded hvalidate, hloaded]
    constructor
    · exact fun hpasses => ⟨c, rfl, hpasses⟩
    · rintro ⟨c', heq, hpasses⟩
      cases heq
      exact hpasses

variable (documents) in
/-- Every command line, in every world, whatever documents are made of texts. -/
theorem effects (line : CommandLine) (s : World) :
    Effects documents line s (line.ran documents s) := by
  cases hloaded : line.loaded documents s with
  | error failure =>
      rw [ran_eq, hloaded]
      exact effects_of_error hloaded
  | ok c =>
      by_cases hcommand : ∃ path, line.command = .params (some path)
      · obtain ⟨path, hpath⟩ := hcommand
        exact effects_params hloaded hpath
      · push Not at hcommand
        exact effects_of_ok hloaded hcommand

end CommandLine

end DataCatalog
