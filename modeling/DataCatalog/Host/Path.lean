import DataCatalog.Host.SystemText
import DataCatalog.Text.Blank

/-!
# Paths of files

The parts of a path are separated by slashes, and an absolute path begins with one.  Paths are
joined and shown as they are written; only `parent?` looks past doubled slashes and dots.

A path that is said in a catalog is a text, and is joined to others as a text (`Path.join`).  A path
that a file is looked for under is one of the system (`SystemText.join`).

Main statements: `Path.join_of_isAbsolute` says that an absolute path replaces what it is joined to,
and `SystemText.ofText_join` that texts are joined like the paths of the system that they are.
-/

set_option autoImplicit false

namespace DataCatalog

namespace Path

/-- Whether a path begins at the root. -/
def isAbsolute (path : String) : Bool := path.toList.head? == some '/'

/-- A path seen from a directory: an absolute path stands for itself. -/
def join (base path : String) : String :=
  if isAbsolute path then path
  else if base.toList.getLast?.all (· == '/') then base ++ path
  else base ++ "/" ++ path

theorem join_of_isAbsolute (base : String) {path : String} (h : isAbsolute path = true) :
    join base path = path := by
  simp [join, h]

end Path

namespace SystemText

/-! ## Paths of the system -/

def slash : UInt8 := 0x2f

def dot : UInt8 := 0x2e

/-- Whether a path begins at the root. -/
def isAbsolute (path : SystemText) : Bool := path.bytes.head? == some slash

/-- A path seen from a directory: an absolute path stands for itself. -/
def join (base path : SystemText) : SystemText :=
  if path.isAbsolute then path
  else if base.bytes.getLast?.all (· == slash) then ⟨base.bytes ++ path.bytes⟩
  else ⟨base.bytes ++ slash :: path.bytes⟩

/-- The parts of a path. -/
def parts (path : SystemText) : List SystemText :=
  (Text.splitChars slash path.bytes).map SystemText.mk

/-- Drops slashes and single dots from the end of a path that is written backwards. -/
def dropTrailing : List UInt8 → List UInt8
  | [] => []
  | b :: rest =>
      if b = slash then if rest = [] then [slash] else dropTrailing rest
      else if b = dot ∧ rest.head? = some slash then dropTrailing rest
      else b :: rest

/-- The path without its last part; none for the root and for the empty path. -/
def parent? (path : SystemText) : Option SystemText :=
  let kept := dropTrailing path.bytes.reverse
  if kept = [] ∨ kept = [slash] then none
  else some ⟨(dropTrailing (kept.dropWhile (· ≠ slash))).reverse⟩

/-- The directory in which the last part of a path is looked for. -/
def directory (path : SystemText) : SystemText :=
  match path.parent? with
  | none => "."
  | some parent => if parent.bytes = [] then "." else parent

/-- What a path begins with decides whether it begins at the root. -/
theorem isAbsolute_of_append {path : SystemText} {front back : List UInt8}
    (h : path.bytes = front ++ back) (hne : front ≠ []) :
    path.isAbsolute = isAbsolute ⟨front⟩ := by
  rw [isAbsolute, isAbsolute, h, List.head?_append, List.head?_eq_some_head hne, Option.some_or]

/-! ## Texts as paths -/

/-- A slash among the bytes of a character is the character itself. -/
theorem eq_slash_of_mem {c : Char} (h : slash ∈ String.utf8EncodeChar c) : c = '/' := by
  obtain ⟨i, hi, hget⟩ := List.getElem_of_mem h
  -- only the first byte of a character can be the first byte of one
  have hfirst : (String.utf8EncodeChar c)[i].IsUTF8FirstByte := by
    rw [hget]
    decide
  obtain rfl := UInt8.isUTF8FirstByte_getElem_utf8EncodeChar.1 hfirst
  obtain ⟨rest, hbytes⟩ : ∃ rest, String.utf8EncodeChar c = slash :: rest :=
    ⟨_, by rw [← hget, List.getElem_zero_eq_head, List.cons_head_tail]⟩
  -- and bytes that begin with a slash are read as one
  have hc := charAt?_encoded c []
  rw [List.append_nil, hbytes] at hc
  exact Option.some.inj (hc.symm.trans (charAt?_encoded '/' rest))

theorem encode_append (front back : List Char) :
    encode (front ++ back) = encode front ++ encode back :=
  List.flatMap_append

theorem encode_cons (c : Char) (rest : List Char) :
    encode (c :: rest) = String.utf8EncodeChar c ++ encode rest :=
  List.flatMap_cons

theorem bytes_ofText_append (s s' : String) :
    (ofText (s ++ s')).bytes = (ofText s).bytes ++ (ofText s').bytes := by
  rw [bytes_ofText, String.toList_append, encode_append]
  rfl

/-- The form of a character has a first and a last byte, which are slashes for the slash only. -/
theorem encodeChar_ends (c : Char) :
    ∃ first last, (String.utf8EncodeChar c).head? = some first ∧
      (String.utf8EncodeChar c).getLast? = some last ∧
      (first = slash ↔ c = '/') ∧ (last = slash ↔ c = '/') := by
  have hne : String.utf8EncodeChar c ≠ [] := by
    rw [← List.length_pos_iff, String.length_utf8EncodeChar]
    exact c.utf8Size_pos
  refine ⟨_, _, List.head?_eq_some_head hne, List.getLast?_eq_some_getLast hne, ?_, ?_⟩
  · constructor
    · exact fun h => eq_slash_of_mem (h ▸ List.head_mem hne)
    · rintro rfl
      rfl
  · constructor
    · exact fun h => eq_slash_of_mem (h ▸ List.getLast_mem hne)
    · rintro rfl
      rfl

@[simp] theorem isAbsolute_ofText (s : String) : (ofText s).isAbsolute = Path.isAbsolute s := by
  rw [isAbsolute, Path.isAbsolute, bytes_ofText]
  cases s.toList with
  | nil => rfl
  | cons c rest =>
      obtain ⟨first, -, hfirst, -, hslash, -⟩ := encodeChar_ends c
      rw [encode_cons, List.head?_append, hfirst]
      exact Bool.eq_iff_iff.2 (by simpa using hslash)

/-- A text ends in a slash if its form does. -/
theorem getLast?_ofText (s : String) :
    (ofText s).bytes.getLast?.all (· == slash) = s.toList.getLast?.all (· == '/') := by
  rw [bytes_ofText]
  by_cases hnil : s.toList = []
  · rw [hnil]
    rfl
  · obtain ⟨-, last, -, hend, -, hslash⟩ := encodeChar_ends (s.toList.getLast hnil)
    rw [← List.dropLast_concat_getLast hnil, encode_append, encode_cons, List.getLast?_append,
      List.getLast?_append, List.getLast?_append, hend]
    exact Bool.eq_iff_iff.2 (by simpa [encode] using hslash)

/-- Texts are joined like the paths of the system that they are. -/
theorem ofText_join (base path : String) :
    ofText (Path.join base path) = (ofText base).join (ofText path) := by
  unfold join Path.join
  rw [isAbsolute_ofText, getLast?_ofText]
  split
  · rfl
  · split
    · exact SystemText.ext (bytes_ofText_append base path)
    · apply SystemText.ext
      rw [bytes_ofText_append, bytes_ofText_append, List.append_assoc]
      rfl

end SystemText

end DataCatalog
