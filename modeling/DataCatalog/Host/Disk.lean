import DataCatalog.Host.World

/-!
# A disk on which a replacement can break off

A file is replaced in three steps: a temporary file is made in the directory of the path, it is
filled, and it is given the name of the path.  Each step can fail, and a failed one is followed by
the removal of the temporary file if there is one.  How a replacement fares is not up to the store
of files: it is given by the conditions on the disk, one `DiskConditions` for each replacement.

Main definitions: `FileStore.replaceBeside` is one replacement, step by step, and `Disk` is a host
whose files are replaced in this way.
-/

set_option autoImplicit false

namespace DataCatalog

/-- How the disk fares during one replacement. -/
structure DiskConditions where
  /-- The names that are tried for the temporary file. -/
  names : List SystemText
  /-- Whether a file can be made. -/
  makes : Bool
  /-- What is in the temporary file if it cannot be filled. -/
  broken? : Option FileContent
  /-- Whether a file can be given another name. -/
  renames : Bool
  deriving Inhabited

namespace FileStore

/-- Takes away what is at a location. -/
def remove (s : FileStore) (location : Location) : FileStore :=
  { s with nodes := s.nodes.filter (·.1 != location) }

/-- Whether a file of a name can be added to a directory. -/
def isFree (s : FileStore) (directory : Location) (name : SystemText) : Bool :=
  fileName? name == some name && (s.node? (directory ++ [name])).isNone

/-- Makes an empty file in a directory, of the first name that is free. -/
def makeTemporary (s : FileStore) (conditions : DiskConditions) (directory : SystemText) :
    Option (Location × FileStore) :=
  match s.locate directory with
  | none => none
  | some location =>
      if s.isDirectory location && conditions.makes then
        (conditions.names.find? (s.isFree location)).map fun name =>
          (location ++ [name], s.put (location ++ [name]) (.file (.text "")))
      else none

/-- Fills a temporary file, and says whether it holds the whole text. -/
def fillTemporary (s : FileStore) (conditions : DiskConditions) (temporary : Location)
    (text : String) : Bool × FileStore :=
  match conditions.broken? with
  | none => (true, s.put temporary (.file (.text text)))
  | some content => (false, s.put temporary (.file content))

/-- Gives a temporary file the name of a path, in place of the file that has it; a directory is not
replaced. -/
def persistTemporary (s : FileStore) (conditions : DiskConditions) (temporary : Location)
    (path : SystemText) : Option FileStore :=
  match s.locate path.directory, fileName? path, s.node? temporary with
  | some location, some name, some node =>
      if s.isDirectory location && !s.isDirectory (location ++ [name]) && conditions.renames then
        some ((s.remove temporary).put (location ++ [name]) node)
      else none
  | _, _, _ => none

/-- Turns a temporary file into the file of a path; if this breaks off, the temporary file is
removed. -/
def finishTemporary (s : FileStore) (conditions : DiskConditions) (temporary : Location)
    (path : SystemText) (text : String) : Except SystemText Unit × FileStore :=
  match s.fillTemporary conditions temporary text with
  | (false, broken) => (.error path, broken.remove temporary)
  | (true, filled) =>
      match filled.persistTemporary conditions temporary path with
      | none => (.error path, filled.remove temporary)
      | some persisted => (.ok (), persisted)

/-- Gives a file a new text by way of a temporary file beside it.  The path to blame for a failure
is that of the directory as long as there is no temporary file, and that of the file from then
on. -/
def replaceBeside (s : FileStore) (conditions : DiskConditions) (path : SystemText)
    (text : String) : Except SystemText Unit × FileStore :=
  match s.makeTemporary conditions path.directory with
  | none => (.error path.directory, s)
  | some (temporary, made) => made.finishTemporary conditions temporary path text

end FileStore

/-- A world whose files are replaced step by step, each replacement under its own conditions. -/
structure Disk where
  world : World
  conditions : Nat → DiskConditions
  /-- How many replacements there were. -/
  replacements : Nat

namespace Disk

/-- The outcome of the next replacement and the files after it. -/
def replacement (d : Disk) (path : SystemText) (text : String) :
    Except SystemText Unit × FileStore :=
  d.world.files.replaceBeside (d.conditions d.replacements) path text

/-- The disk after a replacement that left these files. -/
def settle (d : Disk) (files : FileStore) : Disk :=
  { d with world := { d.world with files }, replacements := d.replacements + 1 }

instance : Files (StateM Disk) where
  readText path := fun d => (d.world.files.readText path, d)
  isPresent path := fun d => (d.world.files.isPresent path, d)
  hasContent path := fun d => (d.world.files.hasContent path, d)
  replace path text := fun d =>
    ((d.replacement path text).1, d.settle (d.replacement path text).2)

instance : Memory (StateM Disk) where
  getStore := fun d => (d.world.memory, d)
  setStore memory := fun d => ((), { d with world := { d.world with memory } })

end Disk

end DataCatalog
