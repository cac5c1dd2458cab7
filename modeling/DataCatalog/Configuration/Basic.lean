import DataCatalog.BuiltIn.Registry
import DataCatalog.Configuration.Documents

/-!
# Layered configurations

Parameter files are merged in order, generic ones first.  Each file is rendered against the merge of
the files before it and only then merged itself, so that it sees neither its own keys nor those of
later files.  Merging sets whole values of top-level keys; a key keeps the place where it first
stood.  The catalog is rendered against the merge of all.

Main statement: `mergeLayer_append` says that merging entries in two parts is merging the one part
and then the other.
-/

set_option autoImplicit false

namespace DataCatalog

/-- What a configuration is loaded from. -/
structure ConfigurationPlan (m : Type → Type) where
  /-- The parameter files that must be there, the most generic first. -/
  required : List SystemText
  /-- Parameter files that come after them, as far as they are there. -/
  optional : List SystemText
  catalog : SystemText
  registry : Registry m
  initialised : Dict Value

/-- Merged parameters, and the catalog rendered with them. -/
structure Configuration (m : Type → Type) where
  parameters : List (Tree × Tree)
  catalog : Catalog m

namespace Configuration

/-- Sets the entries of a layer one after the other. -/
def mergeLayer (merged layer : List (Tree × Tree)) : List (Tree × Tree) :=
  layer.foldl (fun acc entry => Tree.setKey entry.1 entry.2 acc) merged

theorem mergeLayer_append (merged first second : List (Tree × Tree)) :
    mergeLayer merged (first ++ second) = mergeLayer (mergeLayer merged first) second :=
  List.foldl_append

/-- Merges the document of a parameter file; a null document has no parameters. -/
def mergeDocument (path : String) (merged : List (Tree × Tree)) :
    Tree → Except SetupError (List (Tree × Tree))
  | .null => .ok merged
  | .map layer => .ok (mergeLayer merged layer)
  | _ => .error (.parametersNotMapping path)

variable {m : Type → Type} [Monad m] [Files m]

/-- Renders a parameter file against what is merged so far, and merges it. -/
def mergeFile (d : Documents) (path : SystemText) (merged : List (Tree × Tree)) :
    ExceptT SetupError m (List (Tree × Tree)) := do
  let document ← d.load path merged
  ExceptT.mk (pure (mergeDocument path.lossy merged document))

/-- Merges the files that must be there. -/
def mergeRequired (d : Documents) (merged : List (Tree × Tree)) :
    List SystemText → ExceptT SetupError m (List (Tree × Tree))
  | [] => pure merged
  | path :: rest => do
      let merged ← mergeFile d path merged
      mergeRequired d merged rest

/-- Merges the files that are there. -/
def mergeOptional (d : Documents) (merged : List (Tree × Tree)) :
    List SystemText → ExceptT SetupError m (List (Tree × Tree))
  | [] => pure merged
  | path :: rest => do
      if ← (Files.isPresent path : m Bool) then
        let merged ← mergeFile d path merged
        mergeOptional d merged rest
      else mergeOptional d merged rest

/-- Loads a configuration. -/
def loadWith {n : Type → Type} (d : Documents) (plan : ConfigurationPlan n) :
    ExceptT Failure m (Configuration n) := do
  let merged ← ExceptT.adapt .setup (mergeRequired d [] plan.required)
  let merged ← ExceptT.adapt .setup (mergeOptional d merged plan.optional)
  let catalog ← d.catalogOfFile plan.catalog merged plan.registry
  return ⟨merged, catalog.withInitialised plan.initialised⟩

/-- Loads a configuration from documents that see the environment variables of the host. -/
def load [Variables m] {n : Type → Type} (documents : (String → Option String) → Documents)
    (plan : ConfigurationPlan n) : ExceptT Failure m (Configuration n) := do
  loadWith (documents (← (Variables.variables : m (String → Option String)))) plan

/-- Loads parameter files and a catalog of built-in callables. -/
def ofLayers [Variables m] [Memory m] (documents : (String → Option String) → Documents)
    (required : List SystemText) (catalog : SystemText) : ExceptT Failure m (Configuration m) :=
  load documents ⟨required, [], catalog, BuiltIn.registry, Dict.empty⟩

/-- What stands for the merged parameters in errors. -/
def parametersName : String := "<merged parameters>"

/-- The merged parameters as something else. -/
def parametersAs {n : Type → Type} {α : Type} (c : Configuration n)
    (read : List (Tree × Tree) → Except DecodeError α) : Except SetupError α :=
  (read c.parameters).mapError (.yaml parametersName)

end Configuration

end DataCatalog
