/-!
# Identifiers

An identifier is a letter or underscore, followed by letters, digits and underscores.  Only ASCII
letters and digits count.
-/

set_option autoImplicit false

namespace DataCatalog.Text

/-- A letter or an underscore. -/
def isLetter (c : Char) : Bool :=
  ('A' ≤ c && c ≤ 'Z') || ('a' ≤ c && c ≤ 'z') || c == '_'

/-- A letter, an underscore or a digit. -/
def isWordChar (c : Char) : Bool :=
  isLetter c || ('0' ≤ c && c ≤ '9')

/-- A letter or underscore, followed by letters, digits and underscores. -/
def isIdentifier : List Char → Bool
  | [] => false
  | c :: rest => isLetter c && rest.all isWordChar

end DataCatalog.Text
