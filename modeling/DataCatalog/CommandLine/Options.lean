import DataCatalog.Host.SystemText

/-!
# Command lines

A command line names a command, with options before and after the name.  An option is written
`--name value` or `--name=value`, and one with a letter also `-n value`, `-nvalue` or `-n=value`.
After `--` everything is an operand.  Arguments are texts of the system; names, words and the
operands must be texts, while a path may be any bytes.  `CommandLine.parse` reads the whole line or
says why it stops at what it met first.
-/

set_option autoImplicit false

namespace DataCatalog

/-- How data is printed. -/
inductive OutputFormat where
  | json
  | yaml
  deriving DecidableEq, Repr

/-- What is to be done. -/
inductive Command where
  | list
  | inspect
  | read (dataset : String) (skipValidation : Bool) (format : OutputFormat)
  | validate (dataset : String)
  | params (output : Option SystemText)
  deriving DecidableEq, Repr

/-- A command and the directory of the project it is for. -/
structure CommandLine where
  projectDirectory : SystemText
  command : Command
  deriving DecidableEq, Repr

namespace CommandLine

/-- Why a command line is no command. -/
inductive Stop where
  /-- The line asks how it is written. -/
  | help
  /-- The line asks for the version. -/
  | version
  /-- The line breaks a rule. -/
  | usage
  deriving DecidableEq, Repr

/-- What an option takes. -/
inductive Takes where
  /-- No value. -/
  | nothing
  /-- A value that is not empty. -/
  | path
  /-- One of some words. -/
  | word (words : List String)

/-- An option by its name, with a letter if it has one. -/
structure OptionRule where
  name : String
  letter : Option Char
  takes : Takes

/-- What was found on a command line. -/
structure Found where
  options : List (String × SystemText)
  operands : List String

namespace Found

def empty : Found := ⟨[], []⟩

/-- The value of an option. -/
def value? (f : Found) (name : String) : Option SystemText := f.options.lookup name

end Found

/-- The options that every command has. -/
def commonOptions : List OptionRule :=
  [⟨"project-dir", none, .path⟩,
    ⟨"log-level", none, .word ["error", "warn", "info", "debug", "trace"]⟩]

/-- The rules for what follows the name of a command. -/
structure Rules where
  options : List OptionRule
  /-- How many operands there are. -/
  operands : Nat
  /-- Whether the version may be asked for. -/
  hasVersion : Bool

/-- The rules of a command. -/
def rulesOf? (command : String) : Option Rules :=
  if command == "list" || command == "inspect" then some ⟨commonOptions, 0, false⟩
  else if command == "read" then
    some ⟨⟨"skip-validation", none, .nothing⟩ :: ⟨"format", none, .word ["json", "yaml"]⟩ ::
      commonOptions, 1, false⟩
  else if command == "validate" then some ⟨commonOptions, 1, false⟩
  else if command == "params" then some ⟨⟨"output", some 'o', .path⟩ :: commonOptions, 0, false⟩
  else none

/-- Adds a value of an option, which may be given once. -/
def addValue (found : Found) (option : OptionRule) (value : SystemText) : Except Stop Found :=
  let fits :=
    match option.takes with
    | .nothing => true
    | .path => value != ""
    | .word words => words.any fun word => value == word
  if fits && (found.value? option.name).isNone then
    .ok { found with options := (option.name, value) :: found.options }
  else .error .usage

/-- What an argument is. -/
inductive Role where
  | operand
  /-- The mark after which everything is an operand. -/
  | mark
  /-- An option by name or letter, with the value written together with it. -/
  | byName (name : SystemText) (value : Option SystemText)
  | byLetter (letter : Char) (value : Option SystemText)

/-- The byte of `-`. -/
def dash : UInt8 := 0x2d

/-- The byte of `=`. -/
def equals : UInt8 := 0x3d

/-- The role of an argument that begins with one dash, by what comes after it. -/
def letterRole (letter : Char) : List UInt8 → Role
  | [] => .byLetter letter none
  | b :: rest => .byLetter letter (some ⟨if b = equals then rest else b :: rest⟩)

/-- The role of an argument that begins with two dashes, by what comes after them. -/
def nameRole (body : List UInt8) : Role :=
  let name : SystemText := ⟨body.takeWhile (· ≠ equals)⟩
  match body.dropWhile (· ≠ equals) with
  | _ :: value => .byName name (some ⟨value⟩)
  | [] => .byName name none

/-- The role of an argument. -/
def roleOf (arg : SystemText) : Role :=
  match arg.bytes with
  | first :: second :: rest =>
      if first ≠ dash then .operand
      else if second ≠ dash then letterRole (Char.ofNat second.toNat) rest
      else if rest = [] then .mark
      else nameRole rest
  | _ => .operand

/-- Whether an argument can be the value of the option before it. -/
def isValue (arg : SystemText) : Bool :=
  match roleOf arg with
  | .operand => true
  | _ => false

/-- What an option asks for that ends the reading of a command line. -/
def stopOf? (rules : Rules) : Role → Option Stop
  | .byName name none =>
      if name = "help" then some .help
      else if name = "version" && rules.hasVersion then some .version
      else none
  | .byLetter 'h' _ => some .help
  | .byLetter 'V' _ => if rules.hasVersion then some .version else none
  | _ => none

/-- The option of an argument and the value written together with it. -/
def optionOf? (rules : Rules) : Role → Option (OptionRule × Option SystemText)
  | .byName name value => (rules.options.find? (name == ·.name)).map (·, value)
  | .byLetter letter value => (rules.options.find? (·.letter == some letter)).map (·, value)
  | _ => none

/-- Reads arguments; before the name of a command the reading ends at the first operand. -/
def scan (rules : Rules) (untilOperand : Bool) (found : Found) :
    List SystemText → Except Stop (Found × List SystemText)
  | [] => .ok (found, [])
  | arg :: rest =>
      match roleOf arg with
      | .operand =>
          if untilOperand then .ok (found, arg :: rest)
          else
            match arg.text? with
            | none => .error .usage
            | some operand =>
                if found.operands.length < rules.operands then
                  scan rules untilOperand { found with operands := found.operands ++ [operand] }
                    rest
                else .error .usage
      | .mark =>
          match rest.mapM (·.text?) with
          | none => .error .usage
          | some texts =>
              let operands := found.operands ++ texts
              if !untilOperand && operands.length ≤ rules.operands then
                .ok ({ found with operands }, [])
              else .error .usage
      | role =>
          match stopOf? rules role with
          | some stop => .error stop
          | none =>
              match optionOf? rules role with
              | none => .error .usage
              | some (⟨name, letter, .nothing⟩, none) =>
                  match addValue found ⟨name, letter, .nothing⟩ "" with
                  | .ok found => scan rules untilOperand found rest
                  | .error stop => .error stop
              | some (⟨_, _, .nothing⟩, some _) => .error .usage
              | some (option, some value) =>
                  match addValue found option value with
                  | .ok found => scan rules untilOperand found rest
                  | .error stop => .error stop
              | some (option, none) =>
                  match rest with
                  | value :: rest =>
                      if isValue value then
                        match addValue found option value with
                        | .ok found => scan rules untilOperand found rest
                        | .error stop => .error stop
                      else .error .usage
                  | [] => .error .usage

/-- The command of a name with what was found after it. -/
def commandOf? (name : String) (found : Found) : Option Command :=
  match name, found.operands with
  | "list", _ => some .list
  | "inspect", _ => some .inspect
  | "read", [dataset] =>
      let format := if found.value? "format" = some (SystemText.ofText "yaml") then .yaml else .json
      some (.read dataset (found.value? "skip-validation").isSome format)
  | "validate", [dataset] => some (.validate dataset)
  | "params", _ => some (.params (found.value? "output"))
  | _, _ => none

/-- Reads a command line; options after the name of the command count more than those before it. -/
def parse (args : List SystemText) : Except Stop CommandLine :=
  match scan ⟨commonOptions, 0, true⟩ true Found.empty args with
  | .error stop => .error stop
  | .ok (_, []) => .error .usage
  | .ok (leading, first :: rest) =>
      let name := first.lossy
      if name == "help" then .error .help
      else
        match rulesOf? name with
        | none => .error .usage
        | some rules =>
            match scan rules false Found.empty rest with
            | .error stop => .error stop
            | .ok (found, _) =>
                match commandOf? name found with
                | none => .error .usage
                | some command =>
                    let directory := (found.value? "project-dir").or (leading.value? "project-dir")
                    .ok ⟨directory.getD ".", command⟩

end CommandLine

end DataCatalog
