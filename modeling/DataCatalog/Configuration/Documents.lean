import DataCatalog.Catalog
import DataCatalog.Document.WellFormed
import DataCatalog.Host.Effects
import DataCatalog.Template.Render
import DataCatalog.Yaml.Reader

/-!
# Rendered documents

A document is a template first: it is rendered against parameters, and the text that comes out is
read as YAML.  `Documents` holds the two steps, so that everything built on them can be said of any
template engine and any reader.
-/

set_option autoImplicit false

namespace DataCatalog

/-- How texts become documents. -/
structure Documents where
  engine : Template.Engine
  /-- Reads a rendered text. -/
  parse : String → Except DecodeError Tree
  /-- No mapping that is read has two equal keys. -/
  parse_wellFormed : ∀ text document, parse text = .ok document → document.WellFormed

namespace Documents

/-- Templates that see the given environment variables, and YAML. -/
def standard (environment : String → Option String) : Documents :=
  ⟨Template.render environment, fun text => (Yaml.read text).tree,
    fun _ _ h => TextReading.wellFormed_tree h⟩

/-- The document of a template; the name stands for it in errors. -/
def render (d : Documents) (name text : String) (parameters : List (Tree × Tree)) :
    Except SetupError Tree :=
  match d.engine name text parameters with
  | .error e => .error (.template e)
  | .ok rendered =>
      match d.parse rendered with
      | .error e => .error (.yaml name e)
      | .ok document => .ok document

variable {m : Type → Type} [Monad m] [Files m]

/-- The text of a file that must be there. -/
def readText (path : SystemText) : ExceptT SetupError m String := do
  match ← (Files.readText path : m (Option String)) with
  | some text => return text
  | none => throw (.io path.lossy)

/-- The document of a file; its path stands for it in errors, as it is shown. -/
def load (d : Documents) (path : SystemText) (parameters : List (Tree × Tree)) :
    ExceptT SetupError m Tree := do
  let text ← readText path
  ExceptT.mk (pure (d.render path.lossy text parameters))

/-- The catalog of a template. -/
def catalogOfText {n : Type → Type} (d : Documents) (name text : String)
    (parameters : List (Tree × Tree)) (registry : Registry n) : Except Failure (Catalog n) :=
  match d.render name text parameters with
  | .error e => .error (.setup e)
  | .ok document => (Catalog.ofDocument document registry).mapError .catalog

/-- The catalog of a file. -/
def catalogOfFile {n : Type → Type} (d : Documents) (path : SystemText)
    (parameters : List (Tree × Tree)) (registry : Registry n) : ExceptT Failure m (Catalog n) := do
  let text ← ExceptT.adapt .setup (readText path)
  ExceptT.mk (pure (d.catalogOfText path.lossy text parameters registry))

end Documents

end DataCatalog
