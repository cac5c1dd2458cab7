import DataCatalog.Host.Path
import DataCatalog.Text.Blank

/-!
# A store of files

A store holds directories and files by location, the list of names from the root down.  Names and
paths are those of the system, which need not be texts.  A path is followed from the working
directory or the root, name by name; `..` leads back up, and every part but the last must be a
directory.  A file holds text, or else bytes that are no text.

Main statement: `node?_put` says that what is put at a location is found there, and that every other
location is as before.
-/

set_option autoImplicit false

namespace DataCatalog

/-- The names that lead from the root to a file or directory. -/
abbrev Location := List SystemText

/-- What a file holds. -/
inductive FileContent where
  | text (s : String)
  /-- Bytes that are no text. -/
  | binary (size : Nat)
  deriving DecidableEq, Repr

/-- Whether a file holds nothing. -/
def FileContent.isEmpty : FileContent → Bool
  | .text s => s == ""
  | .binary size => size == 0

inductive FileNode where
  | directory
  | file (content : FileContent)
  deriving DecidableEq, Repr

/-- Directories and files, and the directory from which paths are followed. -/
structure FileStore where
  workingDirectory : Location
  nodes : List (Location × FileNode)
  deriving Inhabited

namespace FileStore

/-- What is at a location; the root is always a directory. -/
def node? (s : FileStore) (location : Location) : Option FileNode :=
  if location = [] then some .directory else s.nodes.lookup location

def isDirectory (s : FileStore) (location : Location) : Bool :=
  s.node? location == some .directory

/-- Puts something at a location other than the root. -/
def put (s : FileStore) (location : Location) (node : FileNode) : FileStore :=
  { s with nodes := (location, node) :: s.nodes.filter (·.1 != location) }

/-- Makes the directories on the way from the root. -/
def makeDirectories (s : FileStore) (location : Location) : FileStore :=
  (List.range location.length).foldl
    (fun acc i => acc.put (location.take (i + 1)) .directory) s

/-- Adds a file, with the directories above it. -/
def addFile (s : FileStore) (location : Location) (content : FileContent) : FileStore :=
  (s.makeDirectories location.dropLast).put location (.file content)

/-- A store without files, with a directory to work in. -/
def workingIn (location : Location) : FileStore :=
  (⟨location, []⟩ : FileStore).makeDirectories location

/-- Whether a name can be that of a file: it holds no null byte and has at most 255 bytes. -/
def isName (name : SystemText) : Bool :=
  name.bytes.all (· != 0) && name.bytes.length ≤ 255

/-- Follows the parts of a path from a location. -/
def follow (s : FileStore) (location : Location) : List SystemText → Option Location
  | [] => some location
  | part :: rest =>
      if !s.isDirectory location then none
      else if part == "" || part == "." then follow s location rest
      else if part == ".." then follow s location.dropLast rest
      else if isName part then follow s (location ++ [part]) rest
      else none

/-- The location of a path, whether or not something is there. -/
def locate (s : FileStore) (path : SystemText) : Option Location :=
  if path = "" then none
  else s.follow (if path.isAbsolute then [] else s.workingDirectory) path.parts

/-- What a path leads to. -/
def find? (s : FileStore) (path : SystemText) : Option FileNode :=
  (s.locate path).bind s.node?

/-- The text of the file of a path. -/
def readText (s : FileStore) (path : SystemText) : Option String :=
  match s.find? path with
  | some (.file (.text text)) => some text
  | _ => none

def isPresent (s : FileStore) (path : SystemText) : Bool := (s.find? path).isSome

/-- Whether a path leads to something that is not empty; a directory never is. -/
def hasContent (s : FileStore) (path : SystemText) : Bool :=
  match s.find? path with
  | some (.file content) => !content.isEmpty
  | some .directory => true
  | none => false

/-- The name that the last part of a path gives to a file, if it can. -/
def fileName? (path : SystemText) : Option SystemText :=
  path.parts.getLast?.filter fun name =>
    name != "" && name != "." && name != ".." && isName name

/-- Gives a file a new text.  The directory must be there, and the path must be that of a file or of
nothing; otherwise the path to blame is the directory's or the file's. -/
def replace (s : FileStore) (path : SystemText) (text : String) : Except SystemText FileStore :=
  let directory := path.directory
  match s.locate directory with
  | none => .error directory
  | some location =>
      if !s.isDirectory location then .error directory
      else
        match fileName? path with
        | none => .error path
        | some name =>
            if s.isDirectory (location ++ [name]) then .error path
            else .ok (s.put (location ++ [name]) (.file (.text text)))

/-- The names in a directory, as they are shown. -/
def names (s : FileStore) (path : SystemText) : List String :=
  match s.locate path with
  | none => []
  | some location =>
      (s.nodes.filterMap fun (other, _) =>
        if other.dropLast = location then other.getLast?.map (·.lossy) else none).mergeSort (· ≤ ·)

@[simp] theorem node?_put (s : FileStore) (location other : Location) (node : FileNode)
    (h : location ≠ []) :
    (s.put location node).node? other = if other = location then some node else s.node? other := by
  unfold node? put
  by_cases ho : other = []
  · subst ho
    simp [Ne.symm h]
  · by_cases hl : other = location
    · subst hl
      simp [h]
    · have hlookup : (List.filter (·.1 != location) s.nodes).lookup other =
          s.nodes.lookup other := by
        induction s.nodes with
        | nil => rfl
        | cons head rest ih =>
            obtain ⟨k, v⟩ := head
            by_cases hk : k = location
            · subst hk
              simpa [List.lookup_cons, beq_eq_false_iff_ne.2 hl] using ih
            · by_cases hko : other = k
              · subst hko
                simp [hk]
              · simpa [List.lookup_cons, hk, beq_eq_false_iff_ne.2 hko] using ih
      simp [ho, hl, List.lookup_cons, beq_eq_false_iff_ne.2 hl, hlookup]

end FileStore

end DataCatalog
