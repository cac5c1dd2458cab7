import DataCatalog.Host.World
import DataCatalog.Proofs.Overlay
import DataCatalog.Proofs.Runs

/-!
# Loading layered parameters

Parameter files are loaded one after the other, the required ones first and then those optional
ones that are there.  Each is rendered against the merge of the files before it, and gives a layer
that is merged in turn (`Layered`).  The catalog is rendered against the merge of all layers.

`load_layered` says what a configuration is loaded from, for any template engine, any reader and any
files: its layers and its catalog if nothing fails (`Loads`), and otherwise the error of the first
file that fails (`FailsFirst`).
-/

set_option autoImplicit false

namespace DataCatalog

/-- The parameter files that are loaded, in their order. -/
def ConfigurationPlan.paths {n : Type → Type} (plan : ConfigurationPlan n) (files : FileStore) :
    List SystemText :=
  plan.required ++ plan.optional.filter files.isPresent

namespace Configuration

open DataCatalog.Tree

/-! ## The document of a file -/

section Files

variable (d : Documents) (files : FileStore) (before : List (Tree × Tree)) (path : SystemText)

/-- A file, rendered against the parameters before it, gives a document. -/
inductive GivesDocument : Tree → Prop where
  | mk {text rendered : String} {document : Tree} (read : files.readText path = some text)
      (renders : d.engine path.lossy text before = .ok rendered)
      (parses : d.parse rendered = .ok document) : GivesDocument document

/-- A file gives no document: it is not there, cannot be rendered or cannot be read. -/
inductive GivesNoDocument : SetupError → Prop where
  | unreadable (read : files.readText path = none) : GivesNoDocument (.io path.lossy)
  | unrendered {text : String} {e : TemplateError} (read : files.readText path = some text)
      (renders : d.engine path.lossy text before = .error e) : GivesNoDocument (.template e)
  | unparsed {text rendered : String} {e : DecodeError} (read : files.readText path = some text)
      (renders : d.engine path.lossy text before = .ok rendered)
      (parses : d.parse rendered = .error e) : GivesNoDocument (.yaml path.lossy e)

/-- The parameters in a document; a null document has none. -/
inductive HasParameters : Tree → List (Tree × Tree) → Prop where
  | null : HasParameters .null []
  | map (layer : List (Tree × Tree)) : HasParameters (.map layer) layer

/-- A parameter file, rendered against the parameters before it, gives a layer. -/
def GivesLayer (layer : List (Tree × Tree)) : Prop :=
  ∃ document, GivesDocument d files before path document ∧ HasParameters document layer

/-- A parameter file gives no layer: it gives no document, or one that is no mapping. -/
inductive GivesNoLayer : SetupError → Prop where
  | noDocument {e : SetupError} (fails : GivesNoDocument d files before path e) : GivesNoLayer e
  | noMapping {document : Tree} (gives : GivesDocument d files before path document)
      (other : ∀ layer, ¬HasParameters document layer) :
      GivesNoLayer (.parametersNotMapping path.lossy)

/-- The text of a file that must be there. -/
def textOf : Except SetupError String :=
  (files.readText path).elim (.error (.io path.lossy)) .ok

/-- The document of a file. -/
def documentOf : Except SetupError Tree :=
  (textOf files path).bind fun text => d.render path.lossy text before

/-- The parameters before a file, and then those of the file. -/
def mergedWith : Except SetupError (List (Tree × Tree)) :=
  (documentOf d files before path).bind (mergeDocument path.lossy before)

variable {d files before path}

theorem textOf_eq_ok_iff {text : String} :
    textOf files path = .ok text ↔ files.readText path = some text := by
  unfold textOf
  cases files.readText path with
  | none => simp
  | some found => simp

theorem textOf_eq_error_iff {e : SetupError} :
    textOf files path = .error e ↔ files.readText path = none ∧ e = .io path.lossy := by
  unfold textOf
  cases files.readText path with
  | none => simp [eq_comm]
  | some found => simp

theorem documentOf_eq_ok_iff {document : Tree} :
    documentOf d files before path = .ok document ↔
      GivesDocument d files before path document := by
  unfold documentOf Documents.render
  simp only [bind_eq_ok_iff, textOf_eq_ok_iff]
  constructor
  · rintro ⟨text, hread, h⟩
    split at h
    · cases h
    · rename_i rendered hrenders
      split at h
      · cases h
      · rename_i found hparses
        cases h
        exact .mk hread hrenders hparses
  · rintro ⟨read, renders, parses⟩
    refine ⟨_, read, ?_⟩
    simp only [renders, parses]

theorem documentOf_eq_error_iff {e : SetupError} :
    documentOf d files before path = .error e ↔ GivesNoDocument d files before path e := by
  unfold documentOf Documents.render
  simp only [bind_eq_error_iff, textOf_eq_ok_iff, textOf_eq_error_iff]
  constructor
  · rintro (⟨hread, rfl⟩ | ⟨text, hread, h⟩)
    · exact .unreadable hread
    · split at h
      · rename_i e hrenders
        cases h
        exact .unrendered hread hrenders
      · rename_i rendered hrenders
        split at h
        · rename_i e hparses
          cases h
          exact .unparsed hread hrenders hparses
        · cases h
  · intro h
    cases h with
    | unreadable read => exact .inl ⟨read, rfl⟩
    | unrendered read renders => exact .inr ⟨_, read, by simp only [renders]⟩
    | unparsed read renders parses => exact .inr ⟨_, read, by simp only [renders, parses]⟩

theorem GivesLayer.wellFormed {layer : List (Tree × Tree)}
    (h : GivesLayer d files before path layer) : WellFormed (.map layer) := by
  obtain ⟨document, ⟨_, _, parses⟩, hlayer⟩ := h
  cases hlayer with
  | null => exact .empty
  | map layer => exact d.parse_wellFormed _ _ parses

/-- A file gives one layer at most. -/
theorem GivesLayer.unique {layer other : List (Tree × Tree)}
    (h : GivesLayer d files before path layer) (h' : GivesLayer d files before path other) :
    layer = other := by
  obtain ⟨document, hdocument, hlayer⟩ := h
  obtain ⟨document', hdocument', hother⟩ := h'
  have hsame : document = document' := Except.ok.inj
    ((documentOf_eq_ok_iff.2 hdocument).symm.trans (documentOf_eq_ok_iff.2 hdocument'))
  subst hsame
  cases hlayer with
  | null =>
      cases hother
      rfl
  | map layer =>
      cases hother
      rfl

/-- Of a file nothing matters but its text. -/
theorem GivesLayer.of_readText_eq {files' : FileStore} {layer : List (Tree × Tree)}
    (h : GivesLayer d files before path layer)
    (same : files'.readText path = files.readText path) :
    GivesLayer d files' before path layer := by
  obtain ⟨document, ⟨read, renders, parses⟩, hlayer⟩ := h
  exact ⟨document, ⟨same.trans read, renders, parses⟩, hlayer⟩

theorem mergedWith_of_layer {layer : List (Tree × Tree)}
    (h : GivesLayer d files before path layer) :
    mergedWith d files before path = .ok (mergeLayer before layer) := by
  obtain ⟨document, hdocument, hlayer⟩ := h
  unfold mergedWith
  rw [documentOf_eq_ok_iff.2 hdocument]
  cases hlayer with
  | null => rfl
  | map layer => rfl

theorem mergedWith_of_noLayer {e : SetupError} (h : GivesNoLayer d files before path e) :
    mergedWith d files before path = .error e := by
  unfold mergedWith
  cases h with
  | noDocument fails =>
      rw [documentOf_eq_error_iff.2 fails]
      rfl
  | @noMapping document gives other =>
      rw [documentOf_eq_ok_iff.2 gives]
      show mergeDocument path.lossy before document = _
      cases document with
      | null => exact absurd .null (other [])
      | map layer => exact absurd (.map layer) (other layer)
      | _ => rfl

/-- A file gives a layer or fails. -/
theorem givesLayer_or_givesNoLayer (d : Documents) (files : FileStore)
    (before : List (Tree × Tree)) (path : SystemText) :
    (∃ layer, GivesLayer d files before path layer) ∨
      ∃ e, GivesNoLayer d files before path e := by
  cases hdocument : documentOf d files before path with
  | error e => exact .inr ⟨e, .noDocument (documentOf_eq_error_iff.1 hdocument)⟩
  | ok document =>
      have hgives := documentOf_eq_ok_iff.1 hdocument
      cases document with
      | null => exact .inl ⟨[], _, hgives, .null⟩
      | map layer => exact .inl ⟨layer, _, hgives, .map layer⟩
      | _ => exact .inr ⟨_, .noMapping hgives fun layer hlayer => by cases hlayer⟩

end Files

/-! ## One file after the other -/

section Stacks

variable (d : Documents) (files : FileStore)

/-- The layers of parameter files, each rendered against the merge of the layers before it. -/
structure Layered (paths : List SystemText) (layers : List (List (Tree × Tree))) : Prop where
  length : layers.length = paths.length
  each : ∀ (i : Nat) (path : SystemText) (layer : List (Tree × Tree)), paths[i]? = some path →
    layers[i]? = some layer → GivesLayer d files (overlay (layers.take i)) path layer

/-- Parameters, and then those of the files at some paths, one after the other. -/
def mergedWithAll (merged : List (Tree × Tree)) :
    List SystemText → Except SetupError (List (Tree × Tree))
  | [] => .ok merged
  | path :: rest => (mergedWith d files merged path).bind fun found => mergedWithAll found rest

variable {d files}

theorem mergedWithAll_append (merged : List (Tree × Tree)) (first second : List SystemText) :
    mergedWithAll d files merged (first ++ second) =
      (mergedWithAll d files merged first).bind fun found =>
        mergedWithAll d files found second := by
  induction first generalizing merged with
  | nil => rfl
  | cons path rest ih =>
      simp only [List.cons_append, mergedWithAll]
      cases mergedWith d files merged path with
      | error e => rfl
      | ok found => exact ih found

theorem layered_nil : Layered d files [] [] :=
  ⟨rfl, fun i path layer hpath => by simp at hpath⟩

theorem Layered.concat {paths : List SystemText} {layers : List (List (Tree × Tree))}
    (h : Layered d files paths layers) {path : SystemText} {layer : List (Tree × Tree)}
    (hlayer : GivesLayer d files (overlay layers) path layer) :
    Layered d files (paths ++ [path]) (layers ++ [layer]) := by
  refine ⟨by simp [h.length], ?_⟩
  intro i other found hother hfound
  rcases Nat.lt_trichotomy i paths.length with hlt | heq | hgt
  · have hlayers : i < layers.length := h.length ▸ hlt
    rw [List.getElem?_append_left hlt] at hother
    rw [List.getElem?_append_left hlayers] at hfound
    rw [List.take_append_of_le_length (Nat.le_of_lt hlayers)]
    exact h.each i other found hother hfound
  · -- the new file is the last one
    have hlayers : i = layers.length := heq.trans h.length.symm
    rw [heq, List.getElem?_concat_length] at hother
    rw [hlayers, List.getElem?_concat_length] at hfound
    cases hother
    cases hfound
    rw [hlayers, List.take_left]
    exact hlayer
  · rw [List.getElem?_eq_none (by simp; omega)] at hother
    cases hother

theorem Layered.take {paths : List SystemText} {layers : List (List (Tree × Tree))}
    (h : Layered d files paths layers) (k : Nat) :
    Layered d files (paths.take k) (layers.take k) := by
  refine ⟨by simp [h.length], ?_⟩
  intro i path layer hpath hlayer
  have hi : i < k := by
    by_contra hge
    rw [List.getElem?_take, if_neg hge] at hpath
    cases hpath
  rw [List.getElem?_take_of_lt hi] at hpath hlayer
  rw [List.take_take, Nat.min_eq_left (Nat.le_of_lt hi)]
  exact h.each i path layer hpath hlayer

/-- The layers of the first files, apart from those of the others. -/
theorem Layered.exists_append {first second : List SystemText} {layers : List (List (Tree × Tree))}
    (h : Layered d files (first ++ second) layers) :
    ∃ before after, layers = before ++ after ∧ Layered d files first before := by
  have hfirst := h.take first.length
  rw [List.take_left] at hfirst
  exact ⟨_, _, (List.take_append_drop first.length layers).symm, hfirst⟩

theorem layered_concat_iff {paths : List SystemText} {path : SystemText}
    {layers : List (List (Tree × Tree))} :
    Layered d files (paths ++ [path]) layers ↔
      ∃ before layer, layers = before ++ [layer] ∧ Layered d files paths before ∧
        GivesLayer d files (overlay before) path layer := by
  constructor
  · intro h
    have hlength := h.length
    rw [List.length_append, List.length_singleton] at hlength
    rcases List.eq_nil_or_concat layers with rfl | ⟨before, layer, rfl⟩
    · cases hlength
    · have hbefore : before.length = paths.length := by
        rw [List.concat_eq_append, List.length_append] at hlength
        exact Nat.succ.inj hlength
      rw [List.concat_eq_append] at h ⊢
      refine ⟨before, layer, rfl, ?_, ?_⟩
      · have htake := h.take paths.length
        rwa [List.take_left, ← hbefore, List.take_left] at htake
      · have heach := h.each paths.length path layer List.getElem?_concat_length
        rw [← hbefore, List.take_left] at heach
        exact heach List.getElem?_concat_length
  · rintro ⟨before, layer, rfl, h, hlayer⟩
    exact h.concat hlayer

theorem Layered.wellFormed {paths : List SystemText} {layers : List (List (Tree × Tree))}
    (h : Layered d files paths layers) : ∀ layer ∈ layers, WellFormed (.map layer) := by
  intro layer hmem
  obtain ⟨i, hlayer⟩ := List.mem_iff_getElem?.1 hmem
  have hi : i < paths.length := h.length ▸ (List.getElem?_eq_some_iff.1 hlayer).1
  have hpath : paths[i]? = some paths[i] := List.getElem?_eq_getElem hi
  exact (h.each i paths[i] layer hpath hlayer).wellFormed

/-- The first layers do not depend on anything but the texts of the first files. -/
theorem Layered.congr {files' : FileStore} {paths : List SystemText}
    {layers layers' : List (List (Tree × Tree))} (h : Layered d files paths layers)
    (h' : Layered d files' paths layers')
    (same : ∀ path ∈ paths, files'.readText path = files.readText path) : layers' = layers := by
  -- from the last file on back: what it is rendered against are the layers of the files before it
  induction paths using List.reverseRecOn generalizing layers layers' with
  | nil => rw [List.length_eq_zero_iff.1 h.length, List.length_eq_zero_iff.1 h'.length]
  | append_singleton paths path ih =>
      obtain ⟨before, layer, rfl, hbefore, hlayer⟩ := layered_concat_iff.1 h
      obtain ⟨before', layer', rfl, hbefore', hlayer'⟩ := layered_concat_iff.1 h'
      -- the contexts are the same by induction, and then so is the layer
      obtain ⟨hpaths, hpath⟩ := List.forall_mem_append.1 same
      have heq : before' = before := ih hbefore hbefore' hpaths
      subst heq
      have hsame := (hpath path (List.mem_singleton_self path)).symm
      rw [hlayer.unique (hlayer'.of_readText_eq hsame)]

variable (d files)

/-- One of some files gives no layer, and the files before it do. -/
inductive Stops (paths : List SystemText) : SetupError → Prop where
  | mk {before after : List SystemText} {path : SystemText} {layers : List (List (Tree × Tree))}
      {e : SetupError} (at_path : paths = before ++ path :: after)
      (layered : Layered d files before layers)
      (fails : GivesNoLayer d files (overlay layers) path e) : Stops paths e

/-- Either every file gives a layer or there is a first one that gives none. -/
theorem layered_or_stops (paths : List SystemText) :
    (∃ layers, Layered d files paths layers) ∨ ∃ e, Stops d files paths e := by
  induction paths using List.reverseRecOn with
  | nil => exact .inl ⟨[], layered_nil⟩
  | append_singleton paths path ih =>
      rcases ih with ⟨layers, hlayered⟩ | ⟨e, ⟨rfl, hlayered, hfails⟩⟩
      · rcases givesLayer_or_givesNoLayer d files (overlay layers) path with
          ⟨layer, hlayer⟩ | ⟨e, hfails⟩
        · exact .inl ⟨layers ++ [layer], hlayered.concat hlayer⟩
        · exact .inr ⟨e, .mk rfl hlayered hfails⟩
      · -- a file that has failed already stays the first one
        exact .inr ⟨e, .mk (List.append_assoc _ _ _) hlayered hfails⟩

variable {d files}

theorem mergedWithAll_of_layered {paths : List SystemText} {layers : List (List (Tree × Tree))}
    (h : Layered d files paths layers) : mergedWithAll d files [] paths = .ok (overlay layers) := by
  induction paths using List.reverseRecOn generalizing layers with
  | nil =>
      rw [List.length_eq_zero_iff.1 h.length]
      rfl
  | append_singleton paths path ih =>
      obtain ⟨before, layer, rfl, hbefore, hlayer⟩ := layered_concat_iff.1 h
      rw [mergedWithAll_append, ih hbefore, overlay_concat]
      show (mergedWith d files (overlay before) path).bind .ok = _
      rw [mergedWith_of_layer hlayer]
      rfl

theorem mergedWithAll_of_stops {paths : List SystemText} {e : SetupError}
    (h : Stops d files paths e) : mergedWithAll d files [] paths = .error e := by
  obtain ⟨rfl, hlayered, hfails⟩ := h
  rw [mergedWithAll_append, mergedWithAll_of_layered hlayered]
  show (mergedWith d files _ _).bind _ = _
  rw [mergedWith_of_noLayer hfails]
  rfl

theorem mergedWithAll_eq_ok_iff {paths : List SystemText} {merged : List (Tree × Tree)} :
    mergedWithAll d files [] paths = .ok merged ↔
      ∃ layers, Layered d files paths layers ∧ overlay layers = merged := by
  constructor
  · intro h
    rcases layered_or_stops d files paths with ⟨layers, hlayered⟩ | ⟨e, hstops⟩
    · exact ⟨layers, hlayered, Except.ok.inj ((mergedWithAll_of_layered hlayered).symm.trans h)⟩
    · cases (mergedWithAll_of_stops hstops).symm.trans h
  · rintro ⟨layers, hlayered, rfl⟩
    exact mergedWithAll_of_layered hlayered

theorem mergedWithAll_eq_error_iff {paths : List SystemText} {e : SetupError} :
    mergedWithAll d files [] paths = .error e ↔ Stops d files paths e := by
  refine ⟨?_, mergedWithAll_of_stops⟩
  intro h
  rcases layered_or_stops d files paths with ⟨layers, hlayered⟩ | ⟨e', hstops⟩
  · cases (mergedWithAll_of_layered hlayered).symm.trans h
  · cases (mergedWithAll_of_stops hstops).symm.trans h
    exact hstops

variable (d files) in
/-- The document of a file is null after the files before it, if these give layers. -/
def NullAfter (before : List SystemText) (path : SystemText) : Prop :=
  ∀ layers, Layered d files before layers → GivesDocument d files (overlay layers) path .null

/-- A file with a null document might as well not be listed. -/
theorem mergedWithAll_without_null {before : List SystemText} {path : SystemText}
    (null : NullAfter d files before path) (after : List SystemText) :
    mergedWithAll d files [] (before ++ path :: after) =
      mergedWithAll d files [] (before ++ after) := by
  rw [mergedWithAll_append, mergedWithAll_append]
  rcases layered_or_stops d files before with ⟨layers, hlayered⟩ | ⟨e, hstops⟩
  · rw [mergedWithAll_of_layered hlayered]
    show (mergedWith d files (overlay layers) path).bind _ = mergedWithAll d files _ after
    rw [mergedWith_of_layer ⟨.null, null layers hlayered, .null⟩]
    rfl
  · -- a file before it fails, and neither it nor what follows is looked at
    rw [mergedWithAll_of_stops hstops]
    rfl

end Stacks

/-! ## Loading -/

section Loading

variable {n : Type → Type} (d : Documents) (files : FileStore) (plan : ConfigurationPlan n)

/-- What a configuration is loaded from: the layers of all parameter files, and a catalog that is
rendered against the merge of them. -/
structure Loads (layers : List (List (Tree × Tree))) (c : Configuration n) : Prop where
  layered : Layered d files (plan.paths files) layers
  parameters : c.parameters = overlay layers
  catalog : ∃ document found, GivesDocument d files (overlay layers) plan.catalog document ∧
    Catalog.ofDocument document plan.registry = .ok found ∧
    c.catalog = found.withInitialised plan.initialised

/-- The error of the first file that fails; the catalog comes after all parameter files. -/
inductive FailsFirst : Failure → Prop where
  | parameters {e : SetupError} (stops : Stops d files (plan.paths files) e) :
      FailsFirst (.setup e)
  | catalogUnread {layers : List (List (Tree × Tree))} {e : SetupError}
      (layered : Layered d files (plan.paths files) layers)
      (fails : GivesNoDocument d files (overlay layers) plan.catalog e) : FailsFirst (.setup e)
  | catalogRefused {layers : List (List (Tree × Tree))} {document : Tree} {e : CatalogError}
      (layered : Layered d files (plan.paths files) layers)
      (gives : GivesDocument d files (overlay layers) plan.catalog document)
      (refuses : Catalog.ofDocument document plan.registry = .error e) : FailsFirst (.catalog e)

/-- Plans without one of the files of a plan: one with a null document, or an optional one that is
not there. -/
inductive LeavesOut : ConfigurationPlan n → Prop where
  | required {before after : List SystemText} {path : SystemText}
      (listed : plan.required = before ++ path :: after)
      (null : NullAfter d files before path) :
      LeavesOut { plan with required := before ++ after }
  | optional {before after : List SystemText} {path : SystemText}
      (listed : plan.optional = before ++ path :: after)
      (null : NullAfter d files (plan.required ++ before.filter files.isPresent) path) :
      LeavesOut { plan with optional := before ++ after }
  | missing {before after : List SystemText} {path : SystemText}
      (listed : plan.optional = before ++ path :: after)
      (absent : files.isPresent path = false) :
      LeavesOut { plan with optional := before ++ after }

/-- The catalog, rendered against parameters. -/
def catalogOf (path : SystemText) (before : List (Tree × Tree)) (registry : Registry n) :
    Except Failure (Catalog n) :=
  ((documentOf d files before path).mapError .setup).bind fun document =>
    (Catalog.ofDocument document registry).mapError .catalog

theorem catalogOfText_eq (name text : String) (parameters : List (Tree × Tree))
    (registry : Registry n) :
    d.catalogOfText name text parameters registry =
      ((d.render name text parameters).mapError .setup).bind fun document =>
        (Catalog.ofDocument document registry).mapError .catalog := by
  unfold Documents.catalogOfText
  cases d.render name text parameters with
  | error e => rfl
  | ok document => rfl

/-- The configuration that files make. -/
def ofFiles : Except Failure (Configuration n) :=
  ((mergedWithAll d files [] (plan.paths files)).mapError .setup).bind fun merged =>
    (catalogOf d files plan.catalog merged plan.registry).bind fun found =>
      .ok ⟨merged, found.withInitialised plan.initialised⟩

variable {d files plan}

theorem catalogOf_eq_ok_iff {path : SystemText} {before : List (Tree × Tree)}
    {registry : Registry n} {found : Catalog n} :
    catalogOf d files path before registry = .ok found ↔
      ∃ document, GivesDocument d files before path document ∧
        Catalog.ofDocument document registry = .ok found := by
  simp only [catalogOf, bind_eq_ok_iff, mapError_eq_ok_iff, documentOf_eq_ok_iff]

theorem catalogOf_eq_error_iff {path : SystemText} {before : List (Tree × Tree)}
    {registry : Registry n} {e : Failure} :
    catalogOf d files path before registry = .error e ↔
      (∃ e', GivesNoDocument d files before path e' ∧ .setup e' = e) ∨
        ∃ document, GivesDocument d files before path document ∧
          ∃ e', Catalog.ofDocument document registry = .error e' ∧ .catalog e' = e := by
  simp only [catalogOf, bind_eq_error_iff, mapError_eq_ok_iff, mapError_eq_error_iff,
    documentOf_eq_ok_iff, documentOf_eq_error_iff]

theorem ofFiles_eq_ok_iff {c : Configuration n} :
    ofFiles d files plan = .ok c ↔ ∃ layers, Loads d files plan layers c := by
  simp only [ofFiles, bind_eq_ok_iff, mapError_eq_ok_iff, mergedWithAll_eq_ok_iff,
    catalogOf_eq_ok_iff]
  constructor
  · rintro ⟨_, ⟨layers, hlayered, rfl⟩, found, ⟨document, hdocument, hfound⟩, h⟩
    cases h
    exact ⟨layers, hlayered, rfl, document, found, hdocument, hfound, rfl⟩
  · rintro ⟨layers, hlayered, hparameters, document, found, hdocument, hfound, hcatalog⟩
    refine ⟨_, ⟨layers, hlayered, rfl⟩, found, ⟨document, hdocument, hfound⟩, ?_⟩
    rw [← hparameters, ← hcatalog]

theorem ofFiles_eq_error_iff {e : Failure} :
    ofFiles d files plan = .error e ↔ FailsFirst d files plan e := by
  simp only [ofFiles, bind_eq_error_iff, mapError_eq_ok_iff, mapError_eq_error_iff,
    mergedWithAll_eq_ok_iff, mergedWithAll_eq_error_iff, catalogOf_eq_error_iff]
  constructor
  · rintro (⟨e', hstops, rfl⟩ | ⟨_, ⟨layers, hlayered, rfl⟩, hcatalog⟩)
    · exact .parameters hstops
    · rcases hcatalog with (⟨e', hfails, rfl⟩ | ⟨document, hgives, e', hrefuses, rfl⟩) |
        ⟨found, -, h⟩
      · exact .catalogUnread hlayered hfails
      · exact .catalogRefused hlayered hgives hrefuses
      · cases h
  · intro h
    cases h with
    | parameters stops => exact .inl ⟨_, stops, rfl⟩
    | catalogUnread layered fails =>
        exact .inr ⟨_, ⟨_, layered, rfl⟩, .inl (.inl ⟨_, fails, rfl⟩)⟩
    | catalogRefused layered gives refuses =>
        exact .inr ⟨_, ⟨_, layered, rfl⟩, .inl (.inr ⟨_, gives, _, refuses, rfl⟩)⟩

/-- The parameters against which a file is rendered depend on the files before it alone: not on the
file itself, nor on any later one. -/
theorem Loads.take_eq {files' : FileStore} {plan' : ConfigurationPlan n}
    {layers layers' : List (List (Tree × Tree))} {c c' : Configuration n}
    (h : Loads d files plan layers c) (h' : Loads d files' plan' layers' c') {i : Nat}
    (same_paths : (plan'.paths files').take i = (plan.paths files).take i)
    (same_texts : ∀ path ∈ (plan.paths files).take i, files'.readText path = files.readText path) :
    layers'.take i = layers.take i := by
  have htake' := h'.layered.take i
  rw [same_paths] at htake'
  exact (h.layered.take i).congr htake' same_texts

/-- The files that are left out are not missed. -/
theorem ofFiles_of_leavesOut {plan' : ConfigurationPlan n} (h : LeavesOut d files plan plan') :
    ofFiles d files plan' = ofFiles d files plan := by
  have hpaths : mergedWithAll d files [] (plan'.paths files) =
      mergedWithAll d files [] (plan.paths files) := by
    unfold ConfigurationPlan.paths
    cases h with
    | @required before after path listed null =>
        rw [listed, List.append_assoc, List.append_assoc, List.cons_append,
          mergedWithAll_without_null null]
    | @optional before after path listed null =>
        rw [listed, List.filter_append, List.filter_append, List.filter_cons]
        cases files.isPresent path with
        | false => rfl
        | true =>
            -- the files before it are the required ones and the optional ones that are there
            rw [if_pos rfl, ← List.append_assoc, ← List.append_assoc,
              mergedWithAll_without_null null]
    | @missing before after path listed absent =>
        rw [listed, List.filter_append, List.filter_append, List.filter_cons, absent]
        rfl
  unfold ofFiles
  rw [hpaths]
  cases h with
  | required => rfl
  | optional => rfl
  | missing => rfl

end Loading

section Runs

variable {σ : Type} [HasWorld σ] (d : Documents) (s : σ)

theorem run_readText (path : SystemText) :
    (Documents.readText path : ExceptT SetupError (StateM σ) _).run.run s =
      (textOf (HasWorld.world s).files path, s) := by
  have hread : (Files.readText path : StateM σ _).run s =
      ((HasWorld.world s).files.readText path, s) := rfl
  unfold Documents.readText textOf
  rw [run_liftM_bind, hread]
  cases (HasWorld.world s).files.readText path with
  | none => rfl
  | some text => rfl

theorem run_loadDocument (path : SystemText) (before : List (Tree × Tree)) :
    (d.load path before : ExceptT SetupError (StateM σ) _).run.run s =
      (documentOf d (HasWorld.world s).files before path, s) :=
  run_bind_of_unchanged (run_readText s path) fun _ => rfl

/-- Merging a file depends on the files alone and changes nothing. -/
theorem run_mergeFile (path : SystemText) (merged : List (Tree × Tree)) :
    (mergeFile d path merged : ExceptT SetupError (StateM σ) _).run.run s =
      (mergedWith d (HasWorld.world s).files merged path, s) :=
  run_bind_of_unchanged (run_loadDocument d s path merged) fun _ => rfl

theorem run_mergeRequired (merged : List (Tree × Tree)) (paths : List SystemText) :
    (mergeRequired d merged paths : ExceptT SetupError (StateM σ) _).run.run s =
      (mergedWithAll d (HasWorld.world s).files merged paths, s) := by
  induction paths generalizing merged with
  | nil => rfl
  | cons path rest ih => exact run_bind_of_unchanged (run_mergeFile d s path merged) ih

/-- Optional files that are not there count for nothing. -/
theorem run_mergeOptional (merged : List (Tree × Tree)) (paths : List SystemText) :
    (mergeOptional d merged paths : ExceptT SetupError (StateM σ) _).run.run s =
      (mergedWithAll d (HasWorld.world s).files merged
        (paths.filter (HasWorld.world s).files.isPresent), s) := by
  induction paths generalizing merged with
  | nil => rfl
  | cons path rest ih =>
      have hpresent : (Files.isPresent path : StateM σ _).run s =
          ((HasWorld.world s).files.isPresent path, s) := rfl
      unfold mergeOptional
      rw [run_liftM_bind, hpresent, List.filter_cons]
      cases (HasWorld.world s).files.isPresent path with
      | false => exact ih merged
      | true => exact run_bind_of_unchanged (run_mergeFile d s path merged) ih

theorem run_catalogOfFile {n : Type → Type} (path : SystemText) (before : List (Tree × Tree))
    (registry : Registry n) :
    (d.catalogOfFile path before registry : ExceptT Failure (StateM σ) _).run.run s =
      (catalogOf d (HasWorld.world s).files path before registry, s) := by
  have htext := run_adapt Failure.setup (Documents.readText path : ExceptT _ (StateM σ) _) s
  rw [run_readText] at htext
  have hfile := run_bind_of_unchanged htext
    (f := fun text => ExceptT.mk (pure (d.catalogOfText path.lossy text before registry)))
    fun _ => rfl
  refine hfile.trans ?_
  unfold catalogOf documentOf
  simp only [mapError_bind_bind, catalogOfText_eq]

/-- A configuration depends on the files alone, and loading it changes nothing. -/
theorem run_loadWith {n : Type → Type} (plan : ConfigurationPlan n) :
    (loadWith d plan : ExceptT Failure (StateM σ) _).run.run s =
      (ofFiles d (HasWorld.world s).files plan, s) := by
  have hrequired := run_adapt Failure.setup
    (mergeRequired d [] plan.required : ExceptT _ (StateM σ) _) s
  have hoptional (merged : List (Tree × Tree)) := run_adapt Failure.setup
    (mergeOptional d merged plan.optional : ExceptT _ (StateM σ) _) s
  rw [run_mergeRequired] at hrequired
  simp only [run_mergeOptional] at hoptional
  have hcatalog (merged : List (Tree × Tree)) :=
    run_bind_of_unchanged (run_catalogOfFile d s plan.catalog merged plan.registry)
      (f := fun found => pure (⟨merged, found.withInitialised plan.initialised⟩ : Configuration n))
      fun _ => rfl
  have hload := run_bind_of_unchanged hrequired fun merged =>
    run_bind_of_unchanged (hoptional merged) hcatalog
  refine hload.trans ?_
  unfold ofFiles ConfigurationPlan.paths
  rw [mergedWithAll_append, mapError_bind_bind]

/-- Loading with documents that see the variables of the host. -/
theorem run_load {n : Type → Type} (documents : (String → Option String) → Documents)
    (plan : ConfigurationPlan n) :
    (load documents plan : ExceptT Failure (StateM σ) _).run.run s =
      (ofFiles (documents (HasWorld.world s).variables.get?) (HasWorld.world s).files plan, s) := by
  have hvariables : (Variables.variables : StateM σ _).run s =
      ((HasWorld.world s).variables.get?, s) := rfl
  unfold load
  rw [run_liftM_bind, hvariables]
  exact run_loadWith _ s plan

/-- A configuration is loaded from the layers of its parameter files, each rendered against the
merge of the layers before it, and from a catalog that is rendered against the merge of all layers;
or it is not loaded, with the error of the first file that fails.  The state stays as it is. -/
theorem load_layered {n : Type → Type} (plan : ConfigurationPlan n) :
    ∃ outcome, (loadWith d plan : ExceptT Failure (StateM σ) _).run.run s = (outcome, s) ∧
      (∀ c, outcome = .ok c ↔ ∃ layers, Loads d (HasWorld.world s).files plan layers c) ∧
      (∀ e, outcome = .error e ↔ FailsFirst d (HasWorld.world s).files plan e) ∧
      (∀ layers c, Loads d (HasWorld.world s).files plan layers c →
        Merges layers c.parameters ∧
        (∀ i, Merges (layers.take i) (overlay (layers.take i))) ∧
        ∀ (s' : σ) (plan' : ConfigurationPlan n) (layers' : List (List (Tree × Tree)))
          (c' : Configuration n) (i : Nat), Loads d (HasWorld.world s').files plan' layers' c' →
          (plan'.paths (HasWorld.world s').files).take i =
            (plan.paths (HasWorld.world s).files).take i →
          (∀ path ∈ (plan.paths (HasWorld.world s).files).take i,
            (HasWorld.world s').files.readText path = (HasWorld.world s).files.readText path) →
          layers'.take i = layers.take i) ∧
      ∀ plan', LeavesOut d (HasWorld.world s).files plan plan' →
        (loadWith d plan' : ExceptT Failure (StateM σ) _).run.run s = (outcome, s) := by
  refine ⟨ofFiles d (HasWorld.world s).files plan, run_loadWith d s plan, ?_, ?_, ?_, ?_⟩
  · intro c
    exact ofFiles_eq_ok_iff
  · intro e
    exact ofFiles_eq_error_iff
  · intro layers c hloads
    have wf := hloads.layered.wellFormed
    refine ⟨?_, ?_, ?_⟩
    · rw [hloads.parameters]
      exact merges_overlay wf
    · intro i
      exact merges_overlay fun layer hmem => wf layer (List.mem_of_mem_take hmem)
    · intro s' plan' layers' c' i hloads' same_paths same_texts
      exact hloads.take_eq hloads' same_paths same_texts
  · intro plan' hleaves
    rw [run_loadWith, ofFiles_of_leavesOut hleaves]

end Runs

end Configuration

end DataCatalog
