import DataCatalog.BuiltIn.Registry
import DataCatalog.CommandLine.Options
import DataCatalog.CommandLine.Table
import DataCatalog.Configuration.Basic
import DataCatalog.Project

/-!
# Running commands

A command loads the project of a directory, its parameters and its catalog, and prints what it is
asked for.  An error leaves nothing but its own report; a validation that fails prints its
judgements and fails.  Only `params` with an output file writes anything.
-/

set_option autoImplicit false

namespace DataCatalog

/-- How a run ends. -/
structure Outcome where
  exitCode : Nat
  output : String
  /-- The error that is reported. -/
  failure? : Option Failure
  deriving DecidableEq, Repr

namespace Outcome

/-- The end of a run without errors. -/
def success (output : String) : Outcome := ⟨0, output, none⟩

/-- The end of a run by an error, which prints nothing. -/
def error (failure : Failure) : Outcome := ⟨1, "", some failure⟩

end Outcome

namespace CommandLine

variable {m : Type → Type} [Monad m] [Files m] [Variables m] [Memory m] [DataSources m]

/-- The name under which every callable is offered the project's directory. -/
def baseDirectory : String := "base_dir"

section Loading

variable (documents : (String → Option String) → Documents)

/-- Loads the parameters and the catalog of a project's directory.  Files are opened under the
directory itself, while callables are offered the text that is shown for it. -/
def configuration (directory : SystemText) : ExceptT Failure m (Configuration m) := do
  let project ← ExceptT.adapt .setup (Project.load directory)
  Configuration.load documents
    { required := project.parameterPaths directory
      optional := project.optionalPaths directory
      catalog := project.catalogPath directory
      registry := BuiltIn.registry
      initialised := Dict.empty.insert baseDirectory (.string directory.lossy) }

end Loading

/-- Each text on a line of its own. -/
def printLines (texts : List String) : String :=
  String.join (texts.map (· ++ "\n"))

/-- A row for every dataset: its name, its callable and its validators. -/
def datasetTable (datasets : Entries DatasetEntry) : Table where
  header := ["Dataset", "Callable", "Validators"]
  rows := datasets.map fun (name, entry) =>
    let validators :=
      if entry.validations.isEmpty then "-"
      else "\n".intercalate (entry.validations.map (·.callable))
    [name, entry.source.callable, validators]

/-- A value as it is printed. -/
def printValue (format : OutputFormat) (describe : Source → String) (v : Value) : String :=
  match format with
  | .json => (v.toJson describe).pretty ++ "\n"
  | .yaml => Yaml.write (v.toTree describe)

/-- A validator's judgement as it is printed. -/
def outcomeLine (o : ValidatorOutcome) : String :=
  match o.verdict with
  | .pass => "✅ [" ++ toString o.index ++ "] " ++ o.callable
  | .fail reason => "❌ [" ++ toString o.index ++ "] " ++ o.callable ++ ": " ++ reason

/-- How a validation ends: it fails if a validator does. -/
def reportOutcome (dataset : String) (r : ValidationReport) : Outcome :=
  if r.outcomes.isEmpty then
    .success (printLines ["'" ++ dataset ++ "' has no validators."])
  else
    let judgements := r.outcomes.map outcomeLine
    if r.passed then
      .success (printLines (judgements ++
        ["✨ '" ++ dataset ++ "' passed " ++ toString r.outcomes.length ++ " validator(s)."]))
    else ⟨1, printLines judgements, none⟩

/-- What a command does with its configuration. -/
def execute (c : Configuration m) : Command → ExceptT Failure m Outcome
  | .list => return .success (printLines c.catalog.names)
  | .inspect => return .success (printLines [(datasetTable c.catalog.datasets.entries).draw])
  | .read dataset skipValidation format => do
      let data ← ExceptT.adapt .catalog (c.catalog.readWith dataset skipValidation)
      let describe ← (Memory.descriptions : m (Source → String))
      return .success (printValue format describe data)
  | .validate dataset => do
      let report ← ExceptT.adapt .catalog (c.catalog.validate dataset)
      return reportOutcome dataset report
  | .params none => return .success (Yaml.write (.map c.parameters))
  | .params (some path) => do
      match ← (Files.replace path (Yaml.write (.map c.parameters)) :
        m (Except SystemText Unit)) with
      | .ok _ => return .success (printLines ["✨ Parameters written to " ++ path.lossy])
      | .error blamed => throw (.setup (.io blamed.lossy))

/-- Runs a command. -/
def run (documents : (String → Option String) → Documents) (line : CommandLine) : m Outcome := do
  let result ← (do
    let c ← configuration documents line.projectDirectory
    execute c line.command : ExceptT Failure m Outcome).run
  match result with
  | .ok outcome => return outcome
  | .error failure => return .error failure

/-- The exit code for a command line that breaks a rule. -/
def usageCode : Nat := 2

/-- The version as it is printed. -/
def versionLine : String := "talog 0.1.0\n"

/-- How a command line is written. -/
def helpText : String :=
  printLines
    ["Usage: talog [--project-dir DIR] [--log-level LEVEL] COMMAND", "", "Commands:",
      "  list                                              the names of the datasets",
      "  inspect                                           callables and validators",
      "  read NAME [--skip-validation] [--format FORMAT]   the data of a dataset",
      "  validate NAME                                     what its validators say",
      "  params [--output FILE]                            the merged parameters"]

/-- Runs the command of a command line. -/
def runArguments (documents : (String → Option String) → Documents) (args : List SystemText) :
    m Outcome :=
  match parse args with
  | .ok line => line.run documents
  | .error .help => return .success helpText
  | .error .version => return .success versionLine
  | .error .usage => return ⟨usageCode, "", none⟩

end CommandLine

end DataCatalog
