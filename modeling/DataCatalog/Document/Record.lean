import DataCatalog.Document.Reading

/-!
# Documents as records

A record is a mapping of which some fields are asked for by name, each with the kind of value it must
have.  All keys must be texts; fields that nobody asks for do not matter.
-/

set_option autoImplicit false

namespace DataCatalog

/-- The fields of a mapping, by name. -/
structure Record where
  fields : List (String × Tree)

namespace Record

/-- The fields of entries, if every key is a text. -/
def fieldsOf : List (Tree × Tree) → Except DecodeError (List (String × Tree))
  | [] => .ok []
  | (k, value) :: rest =>
      match k.text? with
      | none => .error .unreadable
      | some name => (fieldsOf rest).map ((name, value) :: ·)

/-- A mapping as a record. -/
def ofEntries (entries : List (Tree × Tree)) : Except DecodeError Record :=
  (fieldsOf entries).map Record.mk

/-- The value of a field that must be there. -/
def field (r : Record) (name : String) : Except DecodeError Tree :=
  match r.fields.lookup name with
  | some value => .ok value.untagged
  | none => .error .unreadable

/-- A field that holds a text. -/
def text (r : Record) (name : String) : Except DecodeError String :=
  match r.field name with
  | .ok (.string s) => .ok s
  | _ => .error .unreadable

/-- A field that holds a natural number below a limit. -/
def natural (r : Record) (name : String) (limit : Nat) : Except DecodeError Nat :=
  match r.field name with
  | .ok (.int i) => if 0 ≤ i ∧ i < limit then .ok i.toNat else .error .unreadable
  | _ => .error .unreadable

end Record

end DataCatalog
