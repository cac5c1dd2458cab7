import DataCatalog.Arguments
import DataCatalog.Document.Reading
import DataCatalog.Host.Effects
import DataCatalog.Host.Path
import DataCatalog.Json.Parser
import DataCatalog.Json.Printer
import DataCatalog.Text.Case
import DataCatalog.Yaml.Printer
import DataCatalog.Yaml.Reader

/-!
# Files as sources

A file is read and written in one of four formats: as one text, as lines, as a YAML document or as a
JSON document.  Building a file source touches nothing; reading decodes the whole file, and writing
replaces it after its new text is complete.

Main statement: `decode_text_encode` says that a text file gives back what was written to it.
-/

set_option autoImplicit false

namespace DataCatalog

namespace FileFormat

/-- The format of a name, whatever its case and the blanks around it. -/
def parse (name : String) : Except CallError FileFormat :=
  let plain := Text.lower (Text.trim name)
  if plain == "text" || plain == "txt" then .ok .text
  else if plain == "lines" then .ok .lines
  else if plain == "yaml" || plain == "yml" then .ok .yaml
  else if plain == "json" then .ok .json
  else .error (.failed
    ("unknown file format '" ++ plain ++ "' (expected text, lines, yaml or json)"))

/-- The value of a file's text. -/
def decode (format : FileFormat) (content : String) : Except CallError Value :=
  match format with
  | .text => .ok (.string content)
  | .lines => .ok (.list ((Text.lines content).map .string))
  | .yaml => (Yaml.read content).value.mapError fun e => .other (e.message "yaml")
  | .json => (Json.read content).value.mapError fun e => .other (e.message "json")

/-- The text of lines, each with its end. -/
def encodeLines : List Value → Except CallError String
  | [] => .ok ""
  | .string line :: rest =>
      match encodeLines rest with
      | .ok later => .ok (line ++ "\n" ++ later)
      | .error e => .error e
  | other :: _ => .error (.failed ("line files take strings, got " ++ other.kind))

/-- The text of a file that holds a value; sources in it are written as their descriptions. -/
def encode (format : FileFormat) (describe : Source → String) (data : Value) :
    Except CallError String :=
  match format, data with
  | .text, .string content => .ok content
  | .text, other => .error (.failed ("text files take a string, got " ++ other.kind))
  | .lines, .list items => encodeLines items
  | .lines, other => .error (.failed ("line files take a list, got " ++ other.kind))
  | .yaml, data => .ok (Yaml.write (data.toTree describe))
  | .json, data => .ok ((data.toJson describe).pretty ++ "\n")

theorem decode_text_encode {describe : Source → String} {data : Value} {content : String}
    (h : FileFormat.text.encode describe data = .ok content) :
    FileFormat.text.decode content = .ok data := by
  cases data <;> simp_all [encode, decode]

end FileFormat

namespace FileSource

/-- The complaint about a path that cannot be used. -/
def complaint (path : String) : CallError :=
  .other ("File System Error on '" ++ path ++ "': <io>")

variable {m : Type → Type} [Monad m]

/-- Reads a file. -/
def read [Files m] (path : String) (format : FileFormat) : ExceptT CallError m Value := do
  match ← (Files.readText path : m (Option String)) with
  | some content => ExceptT.mk (pure (format.decode content))
  | none => throw (complaint path)

/-- Replaces a file, unless the format has no text for the data. -/
def write [Files m] [Memory m] (path : String) (format : FileFormat) (data : Value) :
    ExceptT CallError m Unit := do
  let describe ← (Memory.descriptions : m (Source → String))
  match format.encode describe data with
  | .error e => throw e
  | .ok content =>
      match ← (Files.replace path content : m (Except SystemText Unit)) with
      | .ok _ => return ()
      | .error blamed => throw (complaint blamed.lossy)

/-- What a recipe says of a file: its path, seen from a base directory if there is one, and its
format, which is text if nothing is said. -/
def described : ArgumentReader (String × FileFormat) := do
  let path ← ArgumentReader.required .string "path"
  let format ←
    match ← ArgumentReader.optional .string "format" with
    | some name => ExceptT.mk (pure (FileFormat.parse name))
    | none => pure FileFormat.text
  let base ← ArgumentReader.optional .string "base_dir"
  ArgumentReader.finish
  return ((base.map (Path.join · path)).getD path, format)

/-- Builds the source of a file. -/
def factory [Memory m] (args : Arguments) : ExceptT CallError m Value := do
  match args.read described with
  | .error e => throw e
  | .ok (path, format) => return .source ⟨← (Memory.fresh : m Nat), .file path format⟩

end FileSource

end DataCatalog
