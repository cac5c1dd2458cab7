import DataCatalog.CommandLine.Run

/-!
# The program

The command line of a catalog, run on the files and the environment of the machine.  Payloads live
in memory as long as the program runs.  Files are opened here by paths that are texts; under any
other path nothing is found.
-/

set_option autoImplicit false

namespace DataCatalog

/-- The machine, and the payloads in memory. -/
abbrev Machine := StateT MemoryStore IO

namespace Machine

/-- Runs an action; nothing if it fails. -/
def attempt {α : Type} (action : IO α) : IO (Option α) :=
  try return some (← action) catch _ => return none

/-- Does something with a path that is a text; nothing if it is not, or if this fails. -/
def attemptAt {α : Type} (path : SystemText) (action : String → IO α) : IO (Option α) :=
  match path.text? with
  | some text => attempt (action text)
  | none => return none

/-- What is known of a file or directory that is there. -/
def metadata? (path : SystemText) : IO (Option IO.FS.Metadata) :=
  attemptAt path fun path => do
    let real ← IO.FS.realPath path
    real.metadata

/-- Whether a path leads to a directory. -/
def isDirectory (path : SystemText) : IO Bool := do
  return (← metadata? path).any (·.type == .dir)

/-- A name that no file in a directory is expected to have. -/
def temporaryName : IO String := do
  return ".tmp" ++ toString (← IO.rand 0 (Nat.pow 10 12))

/-- Makes a file beside its target, fills it and gives it the target's name.  The directory is to
blame as long as there is no such file, and the path from then on; what breaks off is removed. -/
def replace (path : SystemText) (text : String) : IO (Except SystemText Unit) := do
  let directory := path.directory
  if !(← isDirectory directory) then return .error directory
  match (directory.join (← temporaryName)).text?, path.text? with
  | some temporary, some target =>
      match ← attempt (IO.FS.Handle.mk temporary .writeNew) with
      | none => return .error directory
      | some file =>
          let finished ← attempt do
            file.putStr text
            file.flush
            IO.FS.rename temporary target
          match finished with
          | some _ => return .ok ()
          | none =>
              let _ ← attempt (IO.FS.removeFile temporary)
              return .error path
  | _, _ => return .error directory

/-- The settings among the bytes of an environment; one that is no text is left out. -/
def settingsOf (bytes : List UInt8) : Dict String :=
  let settings := (Text.splitChars 0 bytes).filterMap fun setting => (SystemText.mk setting).text?
  Dict.ofList (settings.filterMap fun setting =>
    (Reference.splitFirst '=' setting.toList).map fun (name, value) =>
      (String.ofList name, String.ofList value))

/-- The environment of the process, as the system keeps it. -/
def environment : IO (Dict String) := do
  let bytes := (← attempt (IO.FS.readBinFile "/proc/self/environ")).getD ByteArray.empty
  return settingsOf bytes.toList

instance : Files Machine where
  readText path := Machine.attemptAt path fun path => IO.FS.readFile path
  isPresent path := do return (← Machine.metadata? path).isSome
  hasContent path := do return (← Machine.metadata? path).any (0 < ·.byteSize)
  replace path text := Machine.replace path text

instance : Variables Machine where
  «variables» := do return (← Machine.environment).get?

instance : Memory Machine where
  getStore := get
  setStore := set

instance : DataSources Machine where
  read := BuiltIn.read
  write := BuiltIn.write

end Machine

namespace Outcome

/-- What is reported of a run beside its output: the code, the message and the hint of an error, and
how a command line is written where it broke a rule. -/
def report (o : Outcome) : String :=
  match o.failure? with
  | some f =>
      CommandLine.printLines
        ([f.code, "  " ++ f.message] ++ (f.help?.map ("  help: " ++ ·)).toList)
  | none => if o.exitCode = CommandLine.usageCode then CommandLine.helpText else ""

end Outcome

end DataCatalog

/-- Runs the command of the command line. -/
def main (args : List String) : IO UInt32 := do
  let run : DataCatalog.Machine DataCatalog.Outcome :=
    DataCatalog.CommandLine.runArguments DataCatalog.Documents.standard
      (args.map DataCatalog.SystemText.ofText)
  let (outcome, _) ← run.run DataCatalog.MemoryStore.empty
  IO.print outcome.output
  IO.eprint outcome.report
  return UInt32.ofNat outcome.exitCode
