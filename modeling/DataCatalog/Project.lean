import DataCatalog.Configuration.Documents
import DataCatalog.Host.Path

/-!
# Project manifests

A project directory has a manifest that names the project, its parameter files and its catalog.  The
environment may replace the catalog and append parameter files.  Paths in a manifest are seen from
the directory.
-/

set_option autoImplicit false

namespace DataCatalog

/-- What a manifest says. -/
structure Project where
  name : String
  parameters : List String
  optionalParameters : List String
  catalog : String
  deriving DecidableEq, Repr

namespace Project

/-- The fields of a manifest that were read so far. -/
structure Draft where
  name : Option String := none
  parameters : Option (List String) := none
  optionalParameters : Option (List String) := none
  catalog : Option String := none

/-- A scalar as a text; an empty one is the empty text. -/
def scalarText : Reading → Except DecodeError String
  | .string s => .ok s
  | .null => .ok ""
  | _ => .error .unreadable

def scalarTexts : List Reading → Except DecodeError (List String)
  | [] => .ok []
  | r :: rest => do
      let s ← scalarText r
      let later ← scalarTexts rest
      return s :: later

/-- A list of texts; an empty scalar is the empty list. -/
def textList : Reading → Except DecodeError (List String)
  | .seq items => scalarTexts items
  | .null => .ok []
  | _ => .error .unreadable

/-- A field that is read once. -/
def once {α : Type} (known : Option α) (read : Except DecodeError α) :
    Except DecodeError (Option α) :=
  match known with
  | some _ => .error .unreadable
  | none => read.map some

namespace Draft

/-- A draft with one more field; fields without a meaning do not matter. -/
def add (d : Draft) (key : String) (value : Reading) : Except DecodeError Draft :=
  if key == "name" then do
    return { d with name := ← once d.name (scalarText value) }
  else if key == "parameters" then do
    return { d with parameters := ← once d.parameters (textList value) }
  else if key == "optional-parameters" then do
    return { d with optionalParameters := ← once d.optionalParameters (textList value) }
  else if key == "catalog" then do
    return { d with catalog := ← once d.catalog (scalarText value) }
  else .ok d

def addAll (d : Draft) : List (Reading × Reading) → Except DecodeError Draft
  | [] => .ok d
  | (key, value) :: rest => do
      let name ← scalarText key
      let further ← d.add name value
      further.addAll rest

/-- The project of a draft that has a name and a catalog. -/
def complete (d : Draft) : Except DecodeError Project :=
  match d.name, d.catalog with
  | some name, some catalog =>
      .ok ⟨name, d.parameters.getD [], d.optionalParameters.getD [], catalog⟩
  | _, _ => .error .unreadable

end Draft

/-- The manifest in a document. -/
def ofReading : Reading → Except DecodeError Project
  | .map entries => do
      let draft ← Draft.addAll {} entries
      draft.complete
  | _ => .error .unreadable

/-- Reads the text of a manifest. -/
def parse (text : String) : Except DecodeError Project :=
  let r := Yaml.readTexts text
  r.finish (ofReading r.reading)

/-- The variable that replaces the catalog. -/
def catalogVariable : String := "TALOG_CATALOG"

/-- The variable that appends parameter files. -/
def parametersVariable : String := "TALOG_PARAMETERS"

/-- The paths in a text with commas between them, without blanks around them. -/
def pathList (s : String) : List String :=
  ((Text.split ',' s).map Text.trim).filter (· ≠ "")

/-- The project as the environment has it. -/
def override (p : Project) (environment : String → Option String) : Project :=
  let catalog :=
    match environment catalogVariable with
    | some path => if Text.isAllBlank path then p.catalog else path
    | none => p.catalog
  let added := ((environment parametersVariable).map pathList).getD []
  { p with catalog, parameters := p.parameters ++ added }

/-- The fields that must not be empty and are. -/
def emptyFields (p : Project) : List RequiredField :=
  (if p.name = "" then [.name] else []) ++ (if p.catalog = "" then [.catalog] else [])

/-- A project without empty fields. -/
def check (p : Project) : Except SetupError Project :=
  match p.emptyFields with
  | [] => .ok p
  | fields => .error (.emptyFields fields)

/-- The names that a manifest may have, in the order they are looked for. -/
def manifestNames : List String := ["talog.yaml", "talog.yml"]

variable {m : Type → Type} [Monad m] [Files m]

/-- The first of some paths where something is. -/
def firstPresent : List SystemText → m (Option SystemText)
  | [] => pure none
  | path :: rest => do
      if ← Files.isPresent path then return some path else firstPresent rest

/-- Paths that are seen from a directory. -/
def pathsFrom (directory : SystemText) (paths : List String) : List SystemText :=
  paths.map fun path => directory.join (.ofText path)

@[simp] theorem length_pathsFrom (directory : SystemText) (paths : List String) :
    (pathsFrom directory paths).length = paths.length :=
  List.length_map _

/-- Loads the manifest of a directory. -/
def load [Variables m] (directory : SystemText) : ExceptT SetupError m Project := do
  match ← (firstPresent (pathsFrom directory manifestNames) : m (Option SystemText)) with
  | none => throw (.noManifest directory manifestNames)
  | some path =>
      let text ← Documents.readText path
      match parse text with
      | .error e => throw (.yaml path.lossy e)
      | .ok p =>
          let environment ← (Variables.variables : m (String → Option String))
          ExceptT.mk (pure (p.override environment).check)

/-- The parameter files, seen from the directory. -/
def parameterPaths (p : Project) (directory : SystemText) : List SystemText :=
  pathsFrom directory p.parameters

/-- The optional parameter files, seen from the directory. -/
def optionalPaths (p : Project) (directory : SystemText) : List SystemText :=
  pathsFrom directory p.optionalParameters

/-- The catalog, seen from the directory. -/
def catalogPath (p : Project) (directory : SystemText) : SystemText :=
  directory.join p.catalog

end Project

end DataCatalog
