import DataCatalog.CommandLine.Run
import DataCatalog.Proofs.LayeredParameters

/-!
# The parameter files of a project

The parameters of a project come from three lists of files: those of its manifest, those that the
environment adds, and the optional ones of the manifest.  They are layered in this order.  What a
file of the environment says therefore stands against the required files of the manifest, and stands
against its optional files only as far as these say nothing else: `added_parameters_stand`.
-/

set_option autoImplicit false

namespace DataCatalog

open DataCatalog.Configuration

namespace Project

/-- The parameter files that the environment adds. -/
def addedParameters (environment : String → Option String) : List String :=
  ((environment parametersVariable).map pathList).getD []

/-- The project in the manifest of a directory, before the environment has its say. -/
inductive Manifest (files : FileStore) (directory : SystemText) : Project → Prop where
  | mk {path : SystemText} {text : String} {p : Project}
      (first : (pathsFrom directory manifestNames).find? files.isPresent = some path)
      (read : files.readText path = some text) (parses : parse text = .ok p) :
      Manifest files directory p

/-- The project of a directory, as the environment has it. -/
def ofDirectory (files : FileStore) (environment : String → Option String)
    (directory : SystemText) : Except SetupError Project :=
  match (pathsFrom directory manifestNames).find? files.isPresent with
  | none => .error (.noManifest directory manifestNames)
  | some path => (textOf files path).bind fun text =>
      ((parse text).mapError (.yaml path.lossy)).bind fun p => (p.override environment).check

theorem parameterPaths_override (p : Project) (environment : String → Option String)
    (directory : SystemText) :
    (p.override environment).parameterPaths directory =
      p.parameterPaths directory ++ pathsFrom directory (addedParameters environment) :=
  List.map_append

theorem eq_of_check_eq_ok {p q : Project} (h : p.check = .ok q) : q = p := by
  unfold check at h
  split at h
  · exact (Except.ok.inj h).symm
  · cases h

theorem exists_manifest_of_ofDirectory {files : FileStore} {environment : String → Option String}
    {directory : SystemText} {q : Project} (h : ofDirectory files environment directory = .ok q) :
    ∃ p, Manifest files directory p ∧ q = p.override environment := by
  unfold ofDirectory at h
  split at h
  · cases h
  · rename_i path hfirst
    obtain ⟨text, htext, h⟩ := bind_eq_ok_iff.1 h
    obtain ⟨p, hparse, hcheck⟩ := bind_eq_ok_iff.1 h
    exact ⟨p, .mk hfirst (textOf_eq_ok_iff.1 htext) (mapError_eq_ok_iff.1 hparse),
      eq_of_check_eq_ok hcheck⟩

section Runs

variable {σ : Type} [HasWorld σ] (s : σ)

theorem run_firstPresent (paths : List SystemText) :
    (firstPresent paths : StateM σ _).run s =
      (paths.find? (HasWorld.world s).files.isPresent, s) := by
  induction paths with
  | nil => rfl
  | cons path rest ih =>
      have hpresent : (Files.isPresent path : StateM σ _).run s =
          ((HasWorld.world s).files.isPresent path, s) := rfl
      unfold firstPresent
      rw [StateT.run_bind, hpresent, List.find?_cons]
      cases (HasWorld.world s).files.isPresent path with
      | true => rfl
      | false => exact ih

/-- Looking for a project changes nothing. -/
theorem run_load (directory : SystemText) :
    (load directory : ExceptT SetupError (StateM σ) _).run.run s =
      (ofDirectory (HasWorld.world s).files (HasWorld.world s).variables.get? directory, s) := by
  unfold load ofDirectory
  rw [run_liftM_bind, run_firstPresent]
  cases (pathsFrom directory manifestNames).find? (HasWorld.world s).files.isPresent with
  | none => rfl
  | some path =>
      refine run_bind_of_unchanged (run_readText s path) ?_
      intro text
      cases parse text with
      | error e => rfl
      | ok p => rfl

end Runs

end Project

namespace CommandLine

open DataCatalog.Tree

/-- What the configuration of a project is loaded from. -/
def projectPlan {m : Type → Type} [Monad m] [Files m] [Memory m] (p : Project)
    (directory : SystemText) : ConfigurationPlan m where
  required := p.parameterPaths directory
  optional := p.optionalPaths directory
  catalog := p.catalogPath directory
  registry := BuiltIn.registry
  initialised := Dict.empty.insert baseDirectory (.string directory.lossy)

section Runs

variable (documents : (String → Option String) → Documents) {σ : Type} [HasWorld σ] (s : σ)

theorem run_configuration (directory : SystemText) :
    (configuration documents directory : ExceptT Failure (StateM σ) _).run.run s =
      (((Project.ofDirectory (HasWorld.world s).files (HasWorld.world s).variables.get?
          directory).mapError .setup).bind fun p =>
        ofFiles (documents (HasWorld.world s).variables.get?) (HasWorld.world s).files
          (projectPlan p directory), s) := by
  have hproject := run_adapt Failure.setup
    (Project.load directory : ExceptT SetupError (StateM σ) _) s
  rw [Project.run_load] at hproject
  refine run_bind_of_unchanged hproject ?_
  intro p
  exact Configuration.run_load s documents (projectPlan p directory)

/-- The files that the environment adds come after the required files of the manifest and before its
optional ones.  What the last of them says of a key is what comes out, unless an optional file says
something else. -/
theorem added_parameters_stand (directory : SystemText) :
    ∃ outcome,
      (configuration documents directory : ExceptT Failure (StateM σ) _).run.run s = (outcome, s) ∧
      ∀ c, outcome = .ok c → ∃ (p : Project) (own added extra : List (List (Tree × Tree))),
        Project.Manifest (HasWorld.world s).files directory p ∧
        own.length = p.parameters.length ∧
        added.length = (Project.addedParameters (HasWorld.world s).variables.get?).length ∧
        Layered (documents (HasWorld.world s).variables.get?) (HasWorld.world s).files
          (p.parameterPaths directory ++
            Project.pathsFrom directory
              (Project.addedParameters (HasWorld.world s).variables.get?) ++
            (p.optionalPaths directory).filter (HasWorld.world s).files.isPresent)
          (own ++ added ++ extra) ∧
        ∀ key value, key.WellFormed → lastValue? key added = some value →
          (get? key c.parameters = some value ↔
            ∀ other, lastValue? key extra = some other → other = value) := by
  refine ⟨_, run_configuration documents s directory, ?_⟩
  intro c hc
  obtain ⟨q, hproject, hfiles⟩ := bind_eq_ok_iff.1 hc
  obtain ⟨p, hmanifest, rfl⟩ :=
    Project.exists_manifest_of_ofDirectory (mapError_eq_ok_iff.1 hproject)
  obtain ⟨layers, hloads⟩ := ofFiles_eq_ok_iff.1 hfiles
  have hlayered := hloads.layered
  unfold ConfigurationPlan.paths projectPlan at hlayered
  rw [Project.parameterPaths_override] at hlayered
  -- the layers fall into three parts as their paths do
  obtain ⟨own_added, extra, rfl, hown_added⟩ := hlayered.exists_append
  obtain ⟨own, added, rfl, hown⟩ := hown_added.exists_append
  have hlengths := hown_added.length
  refine ⟨p, own, added, extra, hmanifest, ?_, ?_, hlayered, ?_⟩
  · simpa [Project.parameterPaths] using hown.length
  · have hadded := hown.length
    simp only [List.length_append, Project.length_pathsFrom] at hlengths hadded
    omega
  · intro key value wf hvalue
    -- the last part that has the key decides: an optional file, or else one of the environment
    rw [hloads.parameters, get?_overlay hlayered.wellFormed wf, lastValue?_append,
      lastValue?_append, hvalue]
    cases lastValue? key extra with
    | none => simp
    | some other => simp

end Runs

/-- A project with one parameter, which both the environment and an optional file set. -/
def layeredProject : World where
  files := ⟨[],
    [(["talog.yaml"],
        .file (.text "name: demo\noptional-parameters: [local.yaml]\ncatalog: catalog.yaml\n")),
      (["local.yaml"], .file (.text "k: local\n")),
      (["ci.yaml"], .file (.text "k: ci\n")),
      (["catalog.yaml"], .file (.text "\x7b\x7d\n"))]⟩
  «variables» := Dict.empty.insert Project.parametersVariable "ci.yaml"
  memory := .empty

theorem exists_of_any {ε α : Type} {x : Except ε α} {test : α → Bool}
    (h : x.toOption.any test = true) : ∃ a, x = .ok a ∧ test a = true := by
  cases x with
  | error e => cases h
  | ok a => exact ⟨a, rfl, h⟩

theorem get?_of_any {key : Tree} {text : String} {entries : List (Tree × Tree)}
    (h : (get? key entries).any (same (.string text)) = true) :
    get? key entries = some (.string text) := by
  cases hfound : get? key entries with
  | none =>
      rw [hfound] at h
      cases h
  | some t =>
      rw [hfound] at h
      rw [eq_string_of_same h]

/-- The file that the environment adds does not have the last word: an optional file of the manifest
says something else. -/
theorem added_parameters_overridden :
    ∃ (c : Configuration (StateM World)) (added : List (Tree × Tree)),
      (configuration .standard "." : ExceptT Failure (StateM World) _).run.run layeredProject =
        (.ok c, layeredProject) ∧
      Project.addedParameters layeredProject.variables.get? = ["ci.yaml"] ∧
      Layered (.standard layeredProject.variables.get?) layeredProject.files ["./ci.yaml"]
        [added] ∧
      get? (.string "k") added = some (.string "ci") ∧
      get? (.string "k") c.parameters = some (.string "local") := by
  have hlast : ((configuration .standard "." : ExceptT Failure (StateM World) _).run.run
      layeredProject).1.toOption.any (fun c =>
        (get? (.string "k") c.parameters).any (same (.string "local"))) = true := by
    decide +kernel
  have hadded : (mergedWithAll (.standard layeredProject.variables.get?) layeredProject.files []
      ["./ci.yaml"]).toOption.any (fun merged =>
        (get? (.string "k") merged).any (same (.string "ci"))) = true := by
    decide +kernel
  obtain ⟨c, hc, hlocal⟩ := exists_of_any hlast
  obtain ⟨merged, hmerged, hci⟩ := exists_of_any hadded
  obtain ⟨layers, hlayered, rfl⟩ := mergedWithAll_eq_ok_iff.1 hmerged
  obtain ⟨added, rfl⟩ := List.length_eq_one_iff.1 hlayered.length
  have hrun := run_configuration .standard layeredProject "."
  refine ⟨c, added, ?_, by decide +kernel, hlayered, ?_, get?_of_any hlocal⟩
  · rw [hrun] at hc ⊢
    rw [← hc]
  · -- merged with nothing before it, the layer says what the merge says
    have wf : WellFormed (.map added) := hlayered.wellFormed added (List.mem_singleton_self added)
    have hmerge := get?_mergeLayer (.string "k") wf []
    rw [← get?_of_any hci]
    exact (hmerge.trans (Option.or_none)).symm

end CommandLine

end DataCatalog
