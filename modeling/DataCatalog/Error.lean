import DataCatalog.Document.Reading
import DataCatalog.Host.SystemText
import DataCatalog.Recipe.Malformed
import DataCatalog.Registry

/-!
# Errors of a catalog

`CatalogError` lists what can go wrong while a catalog is parsed and used, `SetupError` what can go
wrong while files are found, rendered and parsed.  Each error has a message, a code and sometimes a
hint.  Words that belong to the host's file system, or to a format or template, are left open in
the messages.
-/

set_option autoImplicit false

namespace DataCatalog

namespace ReferenceError

/-- The reference that was looked for. -/
def reference : ReferenceError → String
  | .malformed r _ => r
  | .unknownModule r _ => r
  | .unknownAttribute r _ _ => r
  | .kindMismatch r _ _ => r

/-- What is wrong with the form of a reference. -/
def formReason (manyColons : Bool) : String :=
  if manyColons then "at most one `:` is allowed" else "expected dot-separated identifiers"

/-- The module as it is shown; a single identifier has the root for one. -/
def shownOwner (owner : Option String) : String := owner.getD "<root>"

def message : ReferenceError → String
  | .malformed r manyColons => "Malformed reference '" ++ r ++ "': " ++ formReason manyColons
  | .unknownModule r owner =>
      "Cannot resolve '" ++ r ++ "': no module '" ++ owner ++ "' is registered"
  | .unknownAttribute r owner member =>
      "Cannot resolve '" ++ r ++ "': module '" ++ shownOwner owner ++ "' has no attribute '" ++
        member ++ "'"
  | .kindMismatch r expected found =>
      "'" ++ r ++ "' is registered as a " ++ found.name ++ ", but a " ++ expected.name ++
        " is required here"

def code : ReferenceError → String
  | .malformed _ _ => "talog::domain::reference::malformed"
  | .unknownModule _ _ => "talog::domain::reference::module"
  | .unknownAttribute _ _ _ => "talog::domain::reference::attribute"
  | .kindMismatch _ _ _ => "talog::domain::reference::kind"

def help? : ReferenceError → Option String
  | .malformed _ _ =>
      some "References look like `package.module.Name` or `package.module.Name:method`."
  | .unknownModule _ _ =>
      some "Register the callable in the Registry before loading the catalog."
  | .unknownAttribute _ _ _ => none
  | .kindMismatch _ _ _ => none

end ReferenceError

/-- A validator that did not pass. -/
structure ValidationFailure where
  index : Nat
  callable : String
  reason : String
  deriving DecidableEq, Repr

def ValidationFailure.text (f : ValidationFailure) : String :=
  "[" ++ toString f.index ++ "] " ++ f.callable ++ ": " ++ f.reason

/-- Every validator of a dataset that did not pass. -/
structure ValidationError where
  dataset : String
  failures : List ValidationFailure
  deriving DecidableEq, Repr

def ValidationError.message (e : ValidationError) : String :=
  "Dataset '" ++ e.dataset ++ "' failed " ++ toString e.failures.length ++ " validation(s)" ++
    String.join (e.failures.map fun f => "\n  - " ++ f.text)

/-- What can go wrong while a catalog is parsed and used. -/
inductive CatalogError where
  /-- The callable of the recipe at a position is not registered as what is needed. -/
  | reference (position : Position) (error : ReferenceError)
  /-- The callable of the recipe at a position failed. -/
  | invocation (position : Position) (callable : String) (error : CallError)
  | validation (error : ValidationError)
  | unknownDataset (name : String) (known : List String)
  | malformed (error : Malformed)
  /-- A dataset's recipe built something else than a source. -/
  | notADataSource (dataset callable found : String)
  | sourceRead (dataset : String) (error : CallError)
  | sourceWrite (dataset : String) (error : CallError)
  | notWriteable (dataset : String)
  deriving DecidableEq, Repr

namespace CatalogError

def message : CatalogError → String
  | .reference p e => "Unresolvable callable at " ++ p.display ++ ": " ++ e.message
  | .invocation p callable e =>
      "Failed to invoke '" ++ callable ++ "' at " ++ p.display ++ ": " ++ e.message
  | .validation e => e.message
  | .unknownDataset name _ => "Dataset '" ++ name ++ "' is not in the catalog"
  | .malformed e =>
      "Malformed configuration at " ++ e.position.display ++ ": " ++ e.rule.reason
  | .notADataSource dataset callable found =>
      "Dataset '" ++ dataset ++ "': '" ++ callable ++ "' built a " ++ found ++
        ", not a data source"
  | .sourceRead dataset e => "Dataset '" ++ dataset ++ "': reading failed: " ++ e.message
  | .sourceWrite dataset e => "Dataset '" ++ dataset ++ "': writing failed: " ++ e.message
  | .notWriteable dataset => "Dataset '" ++ dataset ++ "' cannot be written to"

def code : CatalogError → String
  | .reference _ _ => "talog::domain::reference"
  | .invocation _ _ _ => "talog::domain::invocation"
  | .validation _ => "talog::domain::validation"
  | .unknownDataset _ _ => "talog::domain::unknown_dataset"
  | .malformed _ => "talog::domain::malformed"
  | .notADataSource _ _ _ => "talog::domain::not_a_data_source"
  | .sourceRead _ _ => "talog::domain::read"
  | .sourceWrite _ _ => "talog::domain::write"
  | .notWriteable _ => "talog::domain::not_writeable"

def help? : CatalogError → Option String
  | .reference _ _ => some
      "Register the callable in the Registry, or fix the `callable` at the reported position."
  | .invocation _ _ _ => some "Check the `args` of the recipe at the reported position."
  | .validation _ => some
      "Data was not read. Use `skip_validation` to bypass validators while debugging."
  | .unknownDataset _ _ => some
      "Check the dataset name against the top-level keys of the catalog file."
  | .notADataSource _ _ _ => some
      "Top-level catalog recipes must build something implementing DataSource."
  | _ => none

end CatalogError

/-- Why a template cannot be rendered. -/
inductive TemplateError where
  /-- A placeholder has no value. -/
  | unresolved (file placeholder : String) (line : Nat)
  /-- The template does not follow its syntax, or asks for something impossible. -/
  | malformed (file : String)
  deriving DecidableEq, Repr

/-- The fields of a project manifest that must not be empty. -/
inductive RequiredField where
  | name
  | catalog
  deriving DecidableEq, Repr

def RequiredField.key : RequiredField → String
  | .name => "name"
  | .catalog => "catalog"

def RequiredField.complaint : RequiredField → String
  | .name => "project name must not be empty"
  | .catalog => "catalog path must not be empty"

/-- What can go wrong while files are found, rendered and parsed. -/
inductive SetupError where
  | io (path : String)
  | yaml (path : String) (error : DecodeError)
  /-- A parameter file holds something else than a mapping. -/
  | parametersNotMapping (path : String)
  /-- A directory has none of the manifests looked for. -/
  | noManifest (directory : SystemText) (candidates : List String)
  | emptyFields (fields : List RequiredField)
  | template (error : TemplateError)
  deriving DecidableEq, Repr

namespace SetupError

def message : SetupError → String
  | .io path => "File System Error on '" ++ path ++ "': <io>"
  | .yaml path e => "YAML Parsing Error in '" ++ path ++ "': " ++ e.message "yaml"
  | .parametersNotMapping path =>
      "Configuration Error: parameter file " ++ path ++ " must contain a mapping"
  | .noManifest directory candidates =>
      "Project configuration not found: No manifest in " ++ directory.quoted ++
        ". Checked: [" ++ ", ".intercalate (candidates.map Text.quoted) ++ "]"
  | .emptyFields _ => "Invalid project configuration: <fields>"
  | .template (.unresolved file placeholder line) =>
      "Unresolved placeholder '" ++ placeholder ++ "' in " ++ file ++ " (line " ++
        toString line ++ ")"
  | .template (.malformed file) => "Template error in " ++ file ++ ": <template>"

def code : SetupError → String
  | .io _ => "talog::infra::io"
  | .yaml _ _ => "talog::infra::yaml"
  | .parametersNotMapping _ => "talog::infra::config"
  | .noManifest _ _ => "talog::infra::config_missing"
  | .emptyFields _ => "talog::infra::project"
  | .template (.unresolved _ _ _) => "talog::infra::template::unresolved"
  | .template (.malformed _) => "talog::infra::template::malformed"

def help? : SetupError → Option String
  | .io _ => some "Check file permissions or path validity."
  | .yaml _ _ => some
      "Check your YAML syntax (indentation, types) after template rendering."
  | .template (.unresolved _ _ _) => some
      "Define the value in an earlier parameter file, or pass it as a parameter."
  | .template (.malformed _) => some "Check your Jinja syntax (\x7b ... \x7d)."
  | _ => none

end SetupError

/-- Whatever can go wrong with a catalog, from finding its files to using it. -/
inductive Failure where
  | catalog (error : CatalogError)
  | setup (error : SetupError)
  deriving DecidableEq, Repr

namespace Failure

def message : Failure → String
  | .catalog e => e.message
  | .setup e => e.message

def code : Failure → String
  | .catalog e => e.code
  | .setup e => e.code

def help? : Failure → Option String
  | .catalog e => e.help?
  | .setup e => e.help?

end Failure

end DataCatalog
