/-!
# Positions in a configuration document

A position is the list of steps from the root of a document: keys of mappings and indices of
sequences.  It is shown as `sources[1].args.path`, the root as `<root>`.
-/

set_option autoImplicit false

namespace DataCatalog

/-- One step down a document. -/
inductive Step where
  | key (name : String)
  | index (i : Nat)
  deriving DecidableEq, Repr

/-- The steps from the root of a document. -/
abbrev Position := List Step

namespace Position

/-- The position of a whole document. -/
def root : Position := []

/-- One step further, to the entry with a key. -/
def key (p : Position) (name : String) : Position := p ++ [.key name]

/-- One step further, to an element. -/
def index (p : Position) (i : Nat) : Position := p ++ [.index i]

/-- A step after the first one: a key follows a dot, an index stands in brackets. -/
def showStep : Step → String
  | .key name => "." ++ name
  | .index i => "[" ++ toString i ++ "]"

/-- The first step; a key stands alone there. -/
def showFirst : Step → String
  | .key name => name
  | .index i => "[" ++ toString i ++ "]"

/-- The text that names a position in messages. -/
def display : Position → String
  | [] => "<root>"
  | step :: rest => showFirst step ++ String.join (rest.map showStep)

end Position

end DataCatalog
