import DataCatalog.Yaml.Token

/-!
# Events of a YAML document

Events say what a document is made of, in the order of the text: scalars, aliases, and the begin
and end of sequences and mappings.  A key or value that is not written is an empty plain scalar.

`Event.ofTokens` gives the events of the first document of a stream.  Where the tokens break a rule
or stop too early, the events end there.
-/

set_option autoImplicit false

namespace DataCatalog.Yaml

/-- The parts of a document. -/
inductive Event where
  | scalar (text : String) (plain : Bool) (tag anchor : Option String)
  | alias (name : String)
  | sequenceStart (tag anchor : Option String)
  | sequenceEnd
  | mappingStart (tag anchor : Option String)
  | mappingEnd
  deriving DecidableEq, Repr, Inhabited

/-- The scalar that stands for nothing. -/
def Event.nothing : Event := .scalar "" true none none

/-- What the parser expects next. -/
inductive Expectation where
  | documentEnd
  | blockEntry
  | indentlessEntry
  | blockKey
  | blockValue
  | flowEntry (first : Bool)
  | flowPairKey
  | flowPairValue
  | flowPairEnd
  | flowKey (first : Bool)
  | flowValue
  | flowMissingValue
  deriving DecidableEq, Repr, Inhabited

/-- The tokens that are left, and what is expected, innermost first. -/
structure EventParser where
  tokens : List Token
  expected : List Expectation
  /-- The meanings of tag handles. -/
  handles : List (String × String)

namespace EventParser

/-- What a step gives: an event, or the end of the document, with the state after it. -/
abbrev Result := Option (Option Event × EventParser)

def finishWith (p : EventParser) (e : Event) : Result := some (some e, p)

/-- The meaning of a handle and suffix. -/
def resolveTag (p : EventParser) (handle suffix : String) : Option String :=
  if handle = "" then some suffix
  else (p.handles.find? (·.1 == handle)).map fun (_, start) => start ++ suffix

/-- The anchor and the tag before a node, in either order. -/
def properties (p : EventParser) :
    Option (Option String × Option (String × String) × List Token) :=
  match p.tokens with
  | .anchor a :: .tag h s :: rest => some (some a, some (h, s), rest)
  | .anchor a :: rest => some (some a, none, rest)
  | .tag h s :: .anchor a :: rest => some (some a, some (h, s), rest)
  | .tag h s :: rest => some (none, some (h, s), rest)
  | [] => none
  | rest => some (none, none, rest)

/-- A node; `block` says whether it may be a block, `indentless` whether a sequence may begin
without a deeper indentation.  The node's end returns to what is expected next. -/
def node (block indentless : Bool) (p : EventParser) : Result :=
  match p.tokens with
  | .alias name :: rest => { p with tokens := rest }.finishWith (.alias name)
  | _ =>
      match p.properties with
      | none => none
      | some (anchor, written, rest) =>
          let tag? :=
            match written with
            | none => some none
            | some (h, s) => (p.resolveTag h s).map some
          match tag? with
          | none => none
          | some tag =>
              let start (more : List Token) (x : Expectation) (e : Event) : Result :=
                { p with tokens := more, expected := x :: p.expected }.finishWith e
              match rest with
              | [] => none
              | .blockEntry :: _ =>
                  -- a dash under a key begins a sequence without an indentation of its own
                  if indentless then start rest .indentlessEntry (.sequenceStart tag anchor)
                  else if anchor.isSome || tag.isSome then
                    { p with tokens := rest }.finishWith (.scalar "" true tag anchor)
                  else none
              | .scalar text plain :: more =>
                  let tag := if tag = some "!" then none else tag
                  { p with tokens := more }.finishWith (.scalar text plain tag anchor)
              | .flowSequenceStart :: more =>
                  start more (.flowEntry true) (.sequenceStart tag anchor)
              | .flowMappingStart :: more =>
                  start more (.flowKey true) (.mappingStart tag anchor)
              | .blockSequenceStart :: more =>
                  if block then start more .blockEntry (.sequenceStart tag anchor)
                  else if anchor.isSome || tag.isSome then
                    { p with tokens := rest }.finishWith (.scalar "" true tag anchor)
                  else none
              | .blockMappingStart :: more =>
                  if block then start more .blockKey (.mappingStart tag anchor)
                  else if anchor.isSome || tag.isSome then
                    { p with tokens := rest }.finishWith (.scalar "" true tag anchor)
                  else none
              | _ =>
                  if anchor.isSome || tag.isSome then
                    { p with tokens := rest }.finishWith (.scalar "" true tag anchor)
                  else none

/-- A node in a block, after which `next` is expected; nothing, where one of the stops is next. -/
def blockNode (stops : Token → Bool) (indentless : Bool) (next : Expectation)
    (p : EventParser) : Result :=
  let p := { p with expected := next :: p.expected }
  match p.tokens with
  | [] => none
  | t :: _ => if stops t then p.finishWith .nothing else p.node true indentless

/-- A node in brackets, after which `next` is expected. -/
def flowNode (next : Expectation) (p : EventParser) : Result :=
  { p with expected := next :: p.expected }.node false false

/-- Expects `next`, and gives the scalar that stands for nothing. -/
def missing (next : Expectation) (p : EventParser) : Result :=
  { p with expected := next :: p.expected }.finishWith .nothing

def endsEntry (t : Token) : Bool := t == .blockEntry || t == .blockEnd

def endsPair (t : Token) : Bool := t == .key || t == .value || t == .blockEnd

def endsIndentlessEntry (t : Token) : Bool :=
  t == .blockEntry || t == .key || t == .value || t == .blockEnd

/-- One entry of a sequence in brackets: a node, or a mapping of a single pair. -/
def flowEntryHere (tokens : List Token) (p : EventParser) : Result :=
  match tokens with
  | .key :: rest =>
      { p with tokens := rest, expected := .flowPairKey :: .flowEntry false :: p.expected
        }.finishWith (.mappingStart none none)
  | .flowSequenceEnd :: rest => { p with tokens := rest }.finishWith .sequenceEnd
  | [] => none
  | _ => { p with tokens := tokens }.flowNode (.flowEntry false)

/-- One entry of a mapping in brackets. -/
def flowPairHere (tokens : List Token) (p : EventParser) : Result :=
  match tokens with
  | .key :: rest =>
      let p := { p with tokens := rest }
      match rest with
      | [] => none
      | t :: _ =>
          if t == .value || t == .flowEntry || t == .flowMappingEnd then p.missing .flowValue
          else p.flowNode .flowValue
  | .flowMappingEnd :: rest => { p with tokens := rest }.finishWith .mappingEnd
  | [] => none
  | _ => { p with tokens := tokens }.flowNode .flowMissingValue

/-- The next event. -/
def step (p : EventParser) : Result :=
  match p.expected with
  | [] => none
  | x :: outer =>
      let p := { p with expected := outer }
      match x with
      | .documentEnd =>
          match p.tokens with
          | [] => none
          | .documentEnd :: rest => some (none, { p with tokens := rest })
          | _ => some (none, p)
      | .blockEntry =>
          match p.tokens with
          | .blockEntry :: rest =>
              { p with tokens := rest }.blockNode endsEntry false .blockEntry
          | .blockEnd :: rest => { p with tokens := rest }.finishWith .sequenceEnd
          | _ => none
      | .indentlessEntry =>
          match p.tokens with
          | .blockEntry :: rest =>
              { p with tokens := rest }.blockNode endsIndentlessEntry false .indentlessEntry
          | [] => none
          | _ => p.finishWith .sequenceEnd
      | .blockKey =>
          match p.tokens with
          | .key :: rest => { p with tokens := rest }.blockNode endsPair true .blockValue
          | .blockEnd :: rest => { p with tokens := rest }.finishWith .mappingEnd
          | _ => none
      | .blockValue =>
          match p.tokens with
          | .value :: rest => { p with tokens := rest }.blockNode endsPair true .blockKey
          | [] => none
          | _ => p.missing .blockKey
      | .flowEntry first =>
          match p.tokens with
          | .flowSequenceEnd :: rest => { p with tokens := rest }.finishWith .sequenceEnd
          | .flowEntry :: rest => if first then p.flowEntryHere p.tokens else p.flowEntryHere rest
          | tokens => if first then p.flowEntryHere tokens else none
      | .flowPairKey =>
          match p.tokens with
          | [] => none
          | t :: rest =>
              if t == .value || t == .flowEntry || t == .flowSequenceEnd then
                { p with tokens := rest }.missing .flowPairValue
              else p.flowNode .flowPairValue
      | .flowPairValue =>
          match p.tokens with
          | .value :: rest =>
              let p := { p with tokens := rest }
              match rest with
              | [] => none
              | t :: _ =>
                  if t == .flowEntry || t == .flowSequenceEnd then p.missing .flowPairEnd
                  else p.flowNode .flowPairEnd
          | [] => none
          | _ => p.missing .flowPairEnd
      | .flowPairEnd => p.finishWith .mappingEnd
      | .flowKey first =>
          match p.tokens with
          | .flowMappingEnd :: rest => { p with tokens := rest }.finishWith .mappingEnd
          | .flowEntry :: rest => if first then p.flowPairHere p.tokens else p.flowPairHere rest
          | tokens => if first then p.flowPairHere tokens else none
      | .flowValue =>
          match p.tokens with
          | .value :: rest =>
              let p := { p with tokens := rest }
              match rest with
              | [] => none
              | t :: _ =>
                  if t == .flowEntry || t == .flowMappingEnd then p.missing (.flowKey false)
                  else p.flowNode (.flowKey false)
          | [] => none
          | _ => p.missing (.flowKey false)
      | .flowMissingValue =>
          match p.tokens with
          | [] => none
          | _ => p.missing (.flowKey false)

/-- Collects events to the end of the document; `fuel` bounds their number.  The second part is the
state after the document, if it ends. -/
def run : Nat → EventParser → List Event × Option EventParser
  | 0, _ => ([], none)
  | fuel + 1, p =>
      match p.step with
      | none => ([], none)
      | some (none, after) => ([], some after)
      | some (some e, later) =>
          let (events, after) := run fuel later
          (e :: events, after)

end EventParser

/-- The first document of a stream: its events, and how it ends. -/
structure DocumentEvents where
  events : List Event
  /-- Whether the document itself is whole. -/
  whole : Bool
  /-- Whether nothing follows it. -/
  alone : Bool

namespace DocumentEvents

/-- Meanings of the two handles that need no directive. -/
def standardHandles : List (String × String) :=
  [("!", "!"), ("!!", "tag:yaml.org,2002:")]

/-- The meanings of handles after the directives at the front of the tokens. -/
def directives (version : Bool) (handles : List (String × String)) :
    List Token → Option (List (String × String) × List Token)
  | .versionDirective major minor :: rest =>
      if version || major ≠ 1 || (minor ≠ 1 && minor ≠ 2) then none
      else directives true handles rest
  | .tagDirective handle start :: rest =>
      if handles.any (·.1 == handle) then none
      else directives version (handles ++ [(handle, start)]) rest
  | rest => some (handles, rest)

/-- Whether only document ends are left in a stream that ends. -/
def nothingFollows (tokens : List Token) : Bool :=
  tokens.dropWhile (· == .documentEnd) == [.streamEnd]

/-- The document that begins at the front of the tokens. -/
def ofContent (p : EventParser) (first : Option Event) : DocumentEvents :=
  let fuel := 4 * p.tokens.length + 8
  match first with
  | some e =>
      match EventParser.run fuel p with
      | (events, some after) => ⟨e :: events, true, nothingFollows after.tokens⟩
      | (events, none) => ⟨e :: events, false, false⟩
  | none =>
      match p.node true false with
      | some (some e, p) =>
          match EventParser.run fuel p with
          | (events, some after) => ⟨e :: events, true, nothingFollows after.tokens⟩
          | (events, none) => ⟨e :: events, false, false⟩
      | _ => ⟨[], false, false⟩

/-- Whether a document has no content of its own before a token. -/
def endsContent (t : Token) : Bool :=
  match t with
  | .versionDirective _ _ => true
  | .tagDirective _ _ => true
  | .documentStart => true
  | .documentEnd => true
  | .streamEnd => true
  | _ => false

/-- The first document of the tokens of a stream; a stream without one gives no events. -/
def ofTokens (tokens : List Token) : DocumentEvents :=
  match tokens with
  | [] => ⟨[], false, false⟩
  | [.streamEnd] => ⟨[], true, true⟩
  | t :: _ =>
      if t == .documentStart || (match t with
          | .versionDirective _ _ => true
          | .tagDirective _ _ => true
          | _ => false) then
        match directives false [] tokens with
        | some (handles, .documentStart :: rest) =>
            let handles := handles ++ standardHandles
            match rest with
            | [] => ⟨[], false, false⟩
            | u :: _ =>
                if endsContent u then
                  ofContent ⟨rest, [.documentEnd], handles⟩ (some .nothing)
                else ofContent ⟨rest, [.documentEnd], handles⟩ none
        | _ => ⟨[], false, false⟩
      else ofContent ⟨tokens, [.documentEnd], standardHandles⟩ none

end DocumentEvents

end DataCatalog.Yaml
