import DataCatalog.Text.Blank
import DataCatalog.Text.Identifier

/-!
# References of callables

A reference is a dotted path of identifiers, such as `package.module.Name`, with at most one colon
before its last identifier, as in `package.module.Name:method`.  What stands before the colon, or
else before the last dot, is the module of the reference; the rest is its attribute.

Main statement: `assemble_split` says that module, separator and attribute make up the reference.
-/

set_option autoImplicit false

namespace DataCatalog

namespace Reference

/-- Identifiers joined by dots. -/
def isDotted (cs : List Char) : Bool :=
  (Text.splitChars '.' cs).all Text.isIdentifier

/-- Whether a text has the form of a reference. -/
def isReference (reference : String) : Bool :=
  match Text.splitChars ':' reference.toList with
  | [path] => isDotted path
  | [path, member] => isDotted path && Text.isIdentifier member
  | _ => false

/-- What comes before the first occurrence of a character, and what comes after it. -/
def splitFirst (separator : Char) : List Char → Option (List Char × List Char)
  | [] => none
  | c :: rest =>
      if c = separator then some ([], rest)
      else (splitFirst separator rest).map fun (before, after) => (c :: before, after)

/-- What comes before the last occurrence of a character, and what comes after it. -/
def splitLast (separator : Char) (cs : List Char) : Option (List Char × List Char) :=
  (splitFirst separator cs.reverse).map fun (after, before) => (before.reverse, after.reverse)

/-- The module of a reference, its separator if any, and its attribute. -/
def splitChars (cs : List Char) : List Char × Option Char × List Char :=
  match splitFirst ':' cs with
  | some (owner, member) => (owner, some ':', member)
  | none =>
      match splitLast '.' cs with
      | some (owner, member) => (owner, some '.', member)
      | none => ([], none, cs)

/-- The module of a reference; empty for a single identifier. -/
def moduleOf (reference : String) : String :=
  String.ofList (splitChars reference.toList).1

/-- The last identifier of a reference. -/
def attributeOf (reference : String) : String :=
  String.ofList (splitChars reference.toList).2.2

/-- Whether a registered reference lies in a module, or is the module. -/
def liesIn (owner reference : String) : Bool :=
  owner.toList.isPrefixOf reference.toList &&
    match reference.toList.drop owner.toList.length with
    | [] => true
    | c :: _ => c == '.' || c == ':'

/-- Puts module, separator and attribute together. -/
def assemble (parts : List Char × Option Char × List Char) : List Char :=
  parts.1 ++ parts.2.1.toList ++ parts.2.2

theorem eq_of_splitFirst {separator : Char} {cs before after : List Char}
    (h : splitFirst separator cs = some (before, after)) : cs = before ++ separator :: after := by
  induction cs generalizing before after with
  | nil => simp [splitFirst] at h
  | cons c rest ih =>
      unfold splitFirst at h
      split at h
      · rename_i hc
        simp only [Option.some.injEq, Prod.mk.injEq] at h
        rw [← h.1, ← h.2, hc]
        rfl
      · simp only [Option.map_eq_some_iff, Prod.exists, Prod.mk.injEq] at h
        obtain ⟨b, a, hrest, rfl, rfl⟩ := h
        rw [ih hrest]
        rfl

theorem eq_of_splitLast {separator : Char} {cs before after : List Char}
    (h : splitLast separator cs = some (before, after)) : cs = before ++ separator :: after := by
  unfold splitLast at h
  simp only [Option.map_eq_some_iff, Prod.exists, Prod.mk.injEq] at h
  obtain ⟨a, b, hrest, rfl, rfl⟩ := h
  have := congrArg List.reverse (eq_of_splitFirst hrest)
  simpa using this

/-- Nothing of a reference is lost when it is taken apart. -/
theorem assemble_split (cs : List Char) : assemble (splitChars cs) = cs := by
  unfold splitChars assemble
  split
  · rename_i h
    simp [eq_of_splitFirst h]
  · split
    · rename_i h
      simp [eq_of_splitLast h]
    · simp

end Reference

end DataCatalog
