import DataCatalog.Text.Quoted

/-!
# Texts of the operating system

The arguments of a program and the paths of files are bytes.  Mostly they are the UTF-8 form of a
text, but nothing holds them to it.  `SystemText.units` reads the characters among the bytes;
between them are stray bytes, taken together as far as they could begin a character.
`SystemText.lossy` is the text that is shown for them, in which everything stray has become a
replacement character.

Main statements: `lossy_ofText` says that a text is shown as it is, and `isText_iff` that nothing
else is shown without loss.
-/

set_option autoImplicit false

namespace DataCatalog

/-- A text as the operating system has it: any bytes. -/
@[ext]
structure SystemText where
  bytes : List UInt8
  deriving DecidableEq, Inhabited, Repr

namespace SystemText

/-- The UTF-8 form of characters. -/
def encode (cs : List Char) : List UInt8 := cs.flatMap String.utf8EncodeChar

/-- A text in its UTF-8 form. -/
def ofText (s : String) : SystemText := ⟨encode s.toList⟩

instance : Coe String SystemText := ⟨ofText⟩

/-- Bytes that are the UTF-8 form of a text. -/
def IsText (t : SystemText) : Prop := ∃ s, t = ofText s

/-! ## Characters and stray bytes -/

/-- What is read from bytes at once. -/
inductive ByteUnit where
  | char (c : Char)
  /-- Bytes that are no character, at most three. -/
  | stray (bytes : List UInt8)
  deriving DecidableEq, Repr

/-- The character at the beginning of bytes. -/
def charAt? (bytes : List UInt8) : Option Char := (bytes.take 4).toByteArray.utf8DecodeChar? 0

/-- Whether a byte can stand in a character after the first two. -/
def isContinuation (b : UInt8) : Bool := 0x80 ≤ b && b ≤ 0xbf

/-- Whether two bytes begin characters of three or four bytes. -/
def beginsLong (first second : UInt8) : Bool :=
  if first == 0xe0 then 0xa0 ≤ second && second ≤ 0xbf
  else if first == 0xed then 0x80 ≤ second && second ≤ 0x9f
  else if first == 0xf0 then 0x90 ≤ second && second ≤ 0xbf
  else if first == 0xf4 then 0x80 ≤ second && second ≤ 0x8f
  else 0xe1 ≤ first && first ≤ 0xf3 && isContinuation second

/-- How many of the bytes are stray together, where no character begins: as many as could begin a
character, and at least one. -/
def strayLength : List UInt8 → Nat
  | first :: second :: third :: _ =>
      if !beginsLong first second then 1
      else if 0xf0 ≤ first && isContinuation third then 3
      else 2
  | [first, second] => if beginsLong first second then 2 else 1
  | _ => 1

/-- The units of bytes after as many that are passed over. -/
def unitsAfter : Nat → List UInt8 → List ByteUnit
  | _, [] => []
  | passed + 1, _ :: rest => unitsAfter passed rest
  | 0, b :: rest =>
      match charAt? (b :: rest) with
      | some c => .char c :: unitsAfter (c.utf8Size - 1) rest
      | none =>
          let length := strayLength (b :: rest)
          .stray ((b :: rest).take length) :: unitsAfter (length - 1) rest

/-- The characters and stray bytes of a system text. -/
def units (t : SystemText) : List ByteUnit := unitsAfter 0 t.bytes

/-- The character that is shown for stray bytes. -/
def replacement : Char := Char.ofNat 0xfffd

/-- The text that is shown for a system text. -/
def lossy (t : SystemText) : String :=
  String.ofList (t.units.map fun
    | .char c => c
    | .stray _ => replacement)

/-- The text, if it is one. -/
def text? (t : SystemText) : Option String :=
  if ofText t.lossy = t then some t.lossy else none

/-- A stray byte in a quoted text, by two hexadecimal digits. -/
def byteEscape (b : UInt8) : List Char :=
  let digit (n : Nat) : Char := (Nat.digitChar n).toUpper
  ['\\', 'x', digit (b.toNat / 16), digit (b.toNat % 16)]

/-- The name of a file between double quotes; an apostrophe and stray bytes are escaped too. -/
def quoted (t : SystemText) : String :=
  String.ofList ('"' :: t.units.flatMap (fun
    | .char c => Text.quotedChar true c
    | .stray bytes => bytes.flatMap byteEscape) ++ ['"'])

example : units ⟨[0x63, 0xe9, 0xf0, 0x9f, 0x8e, 0x2f]⟩ =
    [.char 'c', .stray [0xe9], .stray [0xf0, 0x9f, 0x8e], .char '/'] := by
  decide +kernel

/-! ## Texts are shown as they are -/

theorem bytes_ofText (s : String) : (ofText s).bytes = encode s.toList := rfl

theorem unitsAfter_eq_drop (n : Nat) (bytes : List UInt8) :
    unitsAfter n bytes = unitsAfter 0 (bytes.drop n) := by
  induction bytes generalizing n with
  | nil => cases n <;> rfl
  | cons b rest ih =>
      cases n with
      | zero => rfl
      | succ n => exact ih n

/-- The UTF-8 form of a character is read as the character. -/
theorem charAt?_encoded (c : Char) (rest : List UInt8) :
    charAt? (String.utf8EncodeChar c ++ rest) = some c := by
  have hlength : (String.utf8EncodeChar c).length ≤ 4 := by
    rw [String.length_utf8EncodeChar]
    exact c.utf8Size_le_four
  unfold charAt?
  rw [List.take_append, List.take_of_length_le hlength, List.toByteArray_append]
  exact ByteArray.utf8DecodeChar?_utf8EncodeChar_append

theorem unitsAfter_encoded (c : Char) (rest : List UInt8) :
    unitsAfter 0 (String.utf8EncodeChar c ++ rest) = .char c :: unitsAfter 0 rest := by
  have hchar := charAt?_encoded c rest
  have hlength := String.length_utf8EncodeChar c
  cases hbytes : String.utf8EncodeChar c with
  | nil =>
      rw [hbytes] at hlength
      exact absurd hlength (Nat.ne_of_lt c.utf8Size_pos)
  | cons b more =>
      rw [hbytes, List.length_cons] at hlength
      rw [hbytes, List.cons_append] at hchar
      rw [List.cons_append, unitsAfter, hchar]
      dsimp only
      -- what is passed over is the rest of the character
      rw [unitsAfter_eq_drop, ← hlength, Nat.add_sub_cancel, List.drop_left]

theorem units_ofText (s : String) : (ofText s).units = s.toList.map .char := by
  rw [units, bytes_ofText, encode]
  induction s.toList with
  | nil => rfl
  | cons c rest ih =>
      rw [List.flatMap_cons, unitsAfter_encoded, ih, List.map_cons]

/-- A text is shown as it is. -/
@[simp] theorem lossy_ofText (s : String) : (ofText s).lossy = s := by
  unfold lossy
  rw [units_ofText, List.map_map]
  exact (congrArg String.ofList (List.map_id s.toList)).trans String.ofList_toList

/-- What is no text is not told by the text that is shown for it. -/
theorem isText_iff {t : SystemText} : t.IsText ↔ ofText t.lossy = t := by
  constructor
  · rintro ⟨s, rfl⟩
    rw [lossy_ofText]
  · exact fun h => ⟨t.lossy, h.symm⟩

instance (t : SystemText) : Decidable t.IsText := decidable_of_iff _ isText_iff.symm

end SystemText

end DataCatalog
