import DataCatalog.Yaml.Event
import DataCatalog.Yaml.Scalar

/-!
# Reading YAML

The events of the first document of a text become a `Reading`.  An anchor has a number, the number
of names anchored before it, and an alias stands for whatever the document anchors last under its
number; aliases and nesting are bounded.  `read` gives scalars their meanings and keeps tags;
`readTexts` takes every scalar as its text and ignores tags, for documents whose fields are texts.
-/

set_option autoImplicit false

namespace DataCatalog.Yaml

/-- An event whose alias is a number. -/
inductive LinkedEvent where
  | part (e : Event)
  | alias (number : Nat)
  | unknownAlias
  deriving Inhabited

/-- The anchor of an event. -/
def Event.anchor? : Event → Option String
  | .scalar _ _ _ a => a
  | .sequenceStart _ a => a
  | .mappingStart _ a => a
  | _ => none

/-- Numbers the aliases; `names` holds the number of every name anchored so far.  An alias of a name
that is not anchored ends the events. -/
def linkEvents (names : List (String × Nat)) : List Event → List LinkedEvent × Bool
  | [] => ([], true)
  | .alias name :: rest =>
      match names.find? (·.1 == name) with
      | none => ([], false)
      | some (_, number) =>
          let (linked, whole) := linkEvents names rest
          (.alias number :: linked, whole)
  | e :: rest =>
      let names :=
        match e.anchor? with
        | none => names
        | some a => (a, names.length) :: names.filter (·.1 != a)
      let (linked, whole) := linkEvents names rest
      (.part e :: linked, whole)

/-- What each number stands for: the events from the anchored one on, the last one first. -/
def anchorTargets (names : List String) : List LinkedEvent → List (Nat × List LinkedEvent)
  | [] => []
  | .part e :: rest =>
      match e.anchor? with
      | none => anchorTargets names rest
      | some a =>
          let number := names.length
          let names := if names.contains a then names else a :: names
          anchorTargets names rest ++ [(number, .part e :: rest)]
  | _ :: rest => anchorTargets names rest

/-- How scalars and tags are read. -/
structure ReadingMode where
  scalar : (text : String) → (plain : Bool) → (tag : Option String) → Reading
  /-- The tag of a node as a text, if it is kept. -/
  tag : Option String → Option String

/-- The name of a tag of the document's own, with one exclamation mark. -/
def ownTag? (tag : Option String) : Option String :=
  match tag.map String.toList with
  | some ('!' :: '!' :: rest) => some (String.ofList ('!' :: rest))
  | some ('!' :: rest) => some (String.ofList ('!' :: rest))
  | _ => none

/-- Scalars have their meanings, tags are kept. -/
def ReadingMode.meanings : ReadingMode where
  scalar text plain tag :=
    match ownTag? tag with
    | some _ => if plain then Scalar.plainReading text else .string text
    | none =>
        match tag with
        | some t => Scalar.standardReading t text plain
        | none => if plain then Scalar.plainReading text else .string text
  tag := ownTag?

/-- Scalars are texts, an empty plain one is null, and tags are ignored. -/
def ReadingMode.texts : ReadingMode where
  scalar text plain _ := if plain && text == "" then .null else .string text
  tag _ := none

/-- A reading under its tag; a tag without a name has no meaning. -/
def ReadingMode.under (mode : ReadingMode) (tag : Option String) (r : Reading) : Reading :=
  match mode.tag tag with
  | none => r
  | some "!" => .fault
  | some t => .tagged t r

/-- Passes the events of the collections that are open. -/
def skipNodes : Nat → List LinkedEvent → Option (List LinkedEvent)
  | 0, events => some events
  | _ + 1, [] => none
  | open_ + 1, e :: rest =>
      match e with
      | .part (.sequenceStart _ _) => skipNodes (open_ + 2) rest
      | .part (.mappingStart _ _) => skipNodes (open_ + 2) rest
      | .part .sequenceEnd => skipNodes open_ rest
      | .part .mappingEnd => skipNodes open_ rest
      | _ => skipNodes (open_ + 1) rest

/-- The events that are left, if the document goes on, and how many aliases may be followed. -/
abbrev Left := Option (List LinkedEvent × Nat)

mutual

/-- One node.  `fuel` bounds the events passed, `depth` the nesting. -/
def readNode (mode : ReadingMode) (targets : List (Nat × List LinkedEvent)) (fuel depth : Nat)
    (events : List LinkedEvent) (aliases : Nat) : Reading × Left :=
  match fuel with
  | 0 => (.fault, none)
  | fuel + 1 =>
      match events with
      | [] => (.fault, none)
      | .unknownAlias :: _ => (.fault, none)
      | .alias number :: rest =>
          match aliases, targets.find? (·.1 == number) with
          | aliases + 1, some (_, target) =>
              -- the target is read again, and what follows the alias is taken from here
              match readNode mode targets fuel depth target aliases with
              | (r, some (_, left)) => (r, some (rest, left))
              | (r, none) => (r, none)
          | _, _ => (.fault, some (rest, 0))
      | .part e :: rest =>
          match e with
          | .scalar text plain tag _ =>
              (mode.under tag (mode.scalar text plain tag), some (rest, aliases))
          | .sequenceStart tag _ =>
              match depth with
              -- too deep: the collection is passed over and its place taken by a fault
              | 0 => (.fault, (skipNodes 1 rest).map (·, aliases))
              | depth + 1 =>
                  let (items, left) := readItems mode targets fuel depth rest aliases
                  (mode.under tag (.seq items), left)
          | .mappingStart tag _ =>
              match depth with
              | 0 => (.fault, (skipNodes 1 rest).map (·, aliases))
              | depth + 1 =>
                  let (entries, left) := readEntries mode targets fuel depth rest aliases
                  (mode.under tag (.map entries), left)
          | _ => (.fault, none)

/-- The elements of a sequence up to its end. -/
def readItems (mode : ReadingMode) (targets : List (Nat × List LinkedEvent)) (fuel depth : Nat)
    (events : List LinkedEvent) (aliases : Nat) : List Reading × Left :=
  match fuel with
  | 0 => ([.fault], none)
  | fuel + 1 =>
      match events with
      | .part .sequenceEnd :: rest => ([], some (rest, aliases))
      | _ =>
          match readNode mode targets fuel depth events aliases with
          | (r, none) => ([r], none)
          | (r, some (rest, aliases)) =>
              let (items, left) := readItems mode targets fuel depth rest aliases
              (r :: items, left)

/-- The entries of a mapping up to its end. -/
def readEntries (mode : ReadingMode) (targets : List (Nat × List LinkedEvent)) (fuel depth : Nat)
    (events : List LinkedEvent) (aliases : Nat) : List (Reading × Reading) × Left :=
  match fuel with
  | 0 => ([(.fault, .fault)], none)
  | fuel + 1 =>
      match events with
      | .part .mappingEnd :: rest => ([], some (rest, aliases))
      | _ =>
          match readNode mode targets fuel depth events aliases with
          | (k, none) => ([(k, .fault)], none)
          | (k, some (rest, aliases)) =>
              match readNode mode targets fuel depth rest aliases with
              | (r, none) => ([(k, r)], none)
              | (r, some (rest, aliases)) =>
                  let (entries, left) := readEntries mode targets fuel depth rest aliases
                  ((k, r) :: entries, left)

end

/-- How deep sequences and mappings may be nested. -/
def depthLimit : Nat := 128

/-- Reads the first document of a text; an empty text is null. -/
def readWith (mode : ReadingMode) (text : String) : TextReading :=
  let document := DocumentEvents.ofTokens (Token.scan text.toList)
  if document.events.isEmpty && document.whole then ⟨.null, document.alone⟩
  else
    let (events, linked) := linkEvents [] document.events
    let targets := anchorTargets [] events
    let aliases := 100 * events.length
    let fuel := (2 * events.length + 4) * (aliases + 2)
    let (reading, left) := readNode mode targets fuel depthLimit events aliases
    ⟨reading, left.isSome && linked && document.whole && document.alone⟩

/-- Reads a text with the meanings of its scalars. -/
def read (text : String) : TextReading := readWith .meanings text

/-- Reads a text with its scalars as texts. -/
def readTexts (text : String) : TextReading := readWith .texts text

end DataCatalog.Yaml
