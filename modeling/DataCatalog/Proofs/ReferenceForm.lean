import DataCatalog.Reference

/-!
# The form of references

A reference is written from its parts: identifiers joined by dots, and perhaps one more identifier
after a colon.  Its owner, the module that it is looked for in, is again a list of identifiers.

Main statements: `isReference_iff` says that the references are what is written from parts,
`moduleOf_text` and `attributeOf_text` that a reference is taken apart into its owner and its last
identifier, and `liesIn_iff` that a reference lies in a module exactly when its path begins with
the identifiers of the module.
-/

set_option autoImplicit false

namespace DataCatalog

/-! ## Joining and splitting -/

namespace Text

/-- Parts with a separator between them. -/
def joinChars (separator : Char) : List (List Char) → List Char
  | [] => []
  | part :: later => part ++ later.flatMap (separator :: ·)

theorem joinChars_cons_cons (separator : Char) (part next : List Char)
    (later : List (List Char)) :
    joinChars separator (part :: next :: later) =
      part ++ separator :: joinChars separator (next :: later) := by
  simp [joinChars]

theorem joinChars_append (separator : Char) {parts : List (List Char)} (more : List (List Char))
    (h : parts ≠ []) :
    joinChars separator (parts ++ more) =
      joinChars separator parts ++ more.flatMap (separator :: ·) := by
  cases parts with
  | nil => exact absurd rfl h
  | cons part later => simp [joinChars]

/-- What was split is joined again. -/
theorem joinChars_splitChars (separator : Char) (cs : List Char) :
    joinChars separator (splitChars separator cs) = cs := by
  induction cs with
  | nil => rfl
  | cons c rest ih =>
      have hne := splitChars_ne_nil separator rest
      unfold splitChars
      cases hrest : splitChars separator rest with
      | nil => exact absurd hrest hne
      | cons part later =>
          rw [hrest] at ih
          by_cases hc : c = separator
          · rw [if_pos hc, joinChars_cons_cons, ih, hc]
            rfl
          · rw [if_neg hc]
            exact congrArg (c :: ·) ih

/-- Parts without separators are found again. -/
theorem splitChars_joinChars {separator : Char} {parts : List (List Char)} (hne : parts ≠ [])
    (hfree : ∀ part ∈ parts, separator ∉ part) :
    splitChars separator (joinChars separator parts) = parts := by
  induction parts with
  | nil => exact absurd rfl hne
  | cons part later ih =>
      have hpart := splitChars_of_not_mem (hfree part List.mem_cons_self)
      cases later with
      | nil =>
          simp only [joinChars, List.flatMap_nil, List.append_nil]
          exact hpart
      | cons next later =>
          have hlater := ih (List.cons_ne_nil _ _) fun p hmem =>
            hfree p (List.mem_cons_of_mem _ hmem)
          rw [joinChars_cons_cons, splitChars_append, hpart, hlater]
          rfl

theorem not_mem_joinChars {c separator : Char} (hne : c ≠ separator) {parts : List (List Char)}
    (hfree : ∀ part ∈ parts, c ∉ part) : c ∉ joinChars separator parts := by
  cases parts with
  | nil => exact List.not_mem_nil
  | cons part later =>
      intro hmem
      rcases List.mem_append.1 hmem with hmem | hmem
      · exact hfree part List.mem_cons_self hmem
      · obtain ⟨p, hp, hmem⟩ := List.mem_flatMap.1 hmem
        rcases List.mem_cons.1 hmem with heq | hmem
        · exact hne heq
        · exact hfree p (List.mem_cons_of_mem _ hp) hmem

/-! ## Characters of identifiers -/

theorem isWordChar_of_isIdentifier {part : List Char} (h : isIdentifier part = true) {c : Char}
    (hmem : c ∈ part) : isWordChar c = true := by
  cases part with
  | nil => cases hmem
  | cons first rest =>
      obtain ⟨hfirst, hrest⟩ : isLetter first = true ∧ rest.all isWordChar = true := by
        simpa [isIdentifier] using h
      rcases List.mem_cons.1 hmem with rfl | hmem
      · unfold isWordChar
        rw [hfirst]
        rfl
      · exact List.all_eq_true.1 hrest c hmem

theorem not_mem_of_isIdentifier {part : List Char} (h : isIdentifier part = true) {c : Char}
    (hc : isWordChar c = false) : c ∉ part := by
  intro hmem
  rw [isWordChar_of_isIdentifier h hmem] at hc
  cases hc

theorem ne_nil_of_isIdentifier {part : List Char} (h : isIdentifier part = true) : part ≠ [] := by
  rintro rfl
  cases h

end Text

namespace Reference

/-! ## Taking apart -/

theorem splitFirst_of_not_mem {separator : Char} {cs : List Char} (h : separator ∉ cs) :
    splitFirst separator cs = none := by
  induction cs with
  | nil => rfl
  | cons c rest ih =>
      have hc : c ≠ separator := fun heq => h (heq ▸ List.mem_cons_self)
      have hrest : separator ∉ rest := fun hmem => h (List.mem_cons_of_mem _ hmem)
      unfold splitFirst
      rw [if_neg hc, ih hrest]
      rfl

theorem splitFirst_append {separator : Char} {before : List Char} (after : List Char)
    (h : separator ∉ before) :
    splitFirst separator (before ++ separator :: after) = some (before, after) := by
  induction before with
  | nil => simp [splitFirst]
  | cons c rest ih =>
      have hc : c ≠ separator := fun heq => h (heq ▸ List.mem_cons_self)
      have hrest : separator ∉ rest := fun hmem => h (List.mem_cons_of_mem _ hmem)
      rw [List.cons_append, splitFirst, if_neg hc, ih hrest]
      rfl

theorem splitLast_of_not_mem {separator : Char} {cs : List Char} (h : separator ∉ cs) :
    splitLast separator cs = none := by
  unfold splitLast
  rw [splitFirst_of_not_mem fun hmem => h (List.mem_reverse.1 hmem)]
  rfl

theorem splitLast_append {separator : Char} (before : List Char) {after : List Char}
    (h : separator ∉ after) :
    splitLast separator (before ++ separator :: after) = some (before, after) := by
  have hreverse : (before ++ separator :: after).reverse =
      after.reverse ++ separator :: before.reverse := by simp
  unfold splitLast
  rw [hreverse, splitFirst_append _ fun hmem => h (List.mem_reverse.1 hmem)]
  simp

/-! ## Parts -/

/-- A reference in its parts: identifiers joined by dots, and perhaps one more after a colon. -/
structure Parts where
  first : List Char
  later : List (List Char)
  member : Option (List Char)
  path_identifiers : ∀ part ∈ first :: later, Text.isIdentifier part = true
  member_identifier : ∀ part ∈ member, Text.isIdentifier part = true

namespace Parts

/-- The identifiers joined by dots. -/
def path (parts : Parts) : List (List Char) := parts.first :: parts.later

/-- What is written after the path. -/
def ending (parts : Parts) : List Char := parts.member.elim [] (':' :: ·)

/-- The reference as it is written. -/
def chars (parts : Parts) : List Char := Text.joinChars '.' parts.path ++ parts.ending

def text (parts : Parts) : String := String.ofList parts.chars

/-- The identifiers of the module: those before the colon, or else before the last dot. -/
def owner (parts : Parts) : List (List Char) :=
  match parts.member with
  | some _ => parts.path
  | none => parts.path.dropLast

/-- The last identifier. -/
def last (parts : Parts) : List Char :=
  match parts.member with
  | some member => member
  | none => parts.path.getLast (List.cons_ne_nil _ _)

/-- What is written between the module and the last identifier. -/
def separator (parts : Parts) : Option Char :=
  match parts.member with
  | some _ => some ':'
  | none => if parts.later = [] then none else some '.'

/-- The module as it is written; empty for a single identifier. -/
def ownerText (parts : Parts) : String := String.ofList (Text.joinChars '.' parts.owner)

def lastText (parts : Parts) : String := String.ofList parts.last

variable (parts : Parts)

theorem path_ne_nil : parts.path ≠ [] := List.cons_ne_nil _ _

theorem colon_not_mem_path : ∀ part ∈ parts.path, ':' ∉ part :=
  fun part hmem => Text.not_mem_of_isIdentifier (parts.path_identifiers part hmem) (by decide)

theorem dot_not_mem_path : ∀ part ∈ parts.path, '.' ∉ part :=
  fun part hmem => Text.not_mem_of_isIdentifier (parts.path_identifiers part hmem) (by decide)

theorem colon_not_mem_joined : ':' ∉ Text.joinChars '.' parts.path :=
  Text.not_mem_joinChars (by decide) parts.colon_not_mem_path

theorem isDotted_joined : isDotted (Text.joinChars '.' parts.path) = true := by
  unfold isDotted
  rw [Text.splitChars_joinChars parts.path_ne_nil parts.dot_not_mem_path]
  exact List.all_eq_true.2 parts.path_identifiers

theorem isReference_text : isReference parts.text = true := by
  have hpath := parts.colon_not_mem_joined
  unfold isReference
  rw [text, String.toList_ofList, chars, ending]
  cases hmember : parts.member with
  | none =>
      rw [Option.elim_none, List.append_nil, Text.splitChars_of_not_mem hpath]
      exact parts.isDotted_joined
  | some member =>
      have hproper := parts.member_identifier member hmember
      have hcolon : ':' ∉ member := Text.not_mem_of_isIdentifier hproper (by decide)
      rw [Option.elim_some, Text.splitChars_append, Text.splitChars_of_not_mem hpath,
        Text.splitChars_of_not_mem hcolon]
      show (isDotted (Text.joinChars '.' parts.path) && Text.isIdentifier member) = true
      rw [parts.isDotted_joined, hproper]
      rfl

end Parts

/-- Identifiers joined by dots are the path of a reference. -/
theorem exists_parts_of_isDotted {cs : List Char} (h : isDotted cs = true)
    (member : Option (List Char)) (hmember : ∀ part ∈ member, Text.isIdentifier part = true) :
    ∃ parts : Parts, parts.member = member ∧ Text.joinChars '.' parts.path = cs := by
  have hjoined := Text.joinChars_splitChars '.' cs
  unfold isDotted at h
  cases hsplit : Text.splitChars '.' cs with
  | nil => exact absurd hsplit (Text.splitChars_ne_nil '.' cs)
  | cons first later =>
      rw [hsplit] at h hjoined
      exact ⟨⟨first, later, member, List.all_eq_true.1 h, hmember⟩, rfl, hjoined⟩

/-- The references are what is written from parts. -/
theorem isReference_iff {reference : String} :
    isReference reference = true ↔ ∃ parts : Parts, parts.text = reference := by
  constructor
  · intro h
    have hjoined := Text.joinChars_splitChars ':' reference.toList
    unfold isReference at h
    split at h
    · rename_i path hsplit
      rw [hsplit] at hjoined
      obtain ⟨parts, hmember, hpath⟩ := exists_parts_of_isDotted h none (by simp)
      refine ⟨parts, ?_⟩
      rw [Parts.text, Parts.chars, Parts.ending, hmember, hpath]
      simpa [Text.joinChars] using congrArg String.ofList hjoined
    · rename_i path member hsplit
      rw [hsplit] at hjoined
      obtain ⟨hdotted, hproper⟩ := Bool.and_eq_true_iff.1 h
      obtain ⟨parts, hmember, hpath⟩ := exists_parts_of_isDotted hdotted (some member)
        (by simpa using hproper)
      refine ⟨parts, ?_⟩
      rw [Parts.text, Parts.chars, Parts.ending, hmember, hpath]
      simpa [Text.joinChars] using congrArg String.ofList hjoined
    · cases h
  · rintro ⟨parts, rfl⟩
    exact parts.isReference_text

/-! ## Modules -/

namespace Parts

variable (parts : Parts)

theorem owner_of_member {member : List Char} (h : parts.member = some member) :
    parts.owner = parts.path := by
  unfold owner
  rw [h]

theorem owner_of_no_member (h : parts.member = none) : parts.owner = parts.path.dropLast := by
  unfold owner
  rw [h]

theorem identifiers_owner : ∀ part ∈ parts.owner, Text.isIdentifier part = true := by
  intro part hmem
  apply parts.path_identifiers
  cases hmember : parts.member with
  | none =>
      rw [owner_of_no_member parts hmember] at hmem
      exact parts.path.dropLast_subset hmem
  | some member =>
      rw [owner_of_member parts hmember] at hmem
      exact hmem

/-- A reference is taken apart into its module and its last identifier. -/
theorem splitChars_chars :
    splitChars parts.chars =
      (Text.joinChars '.' parts.owner, parts.separator, parts.last) := by
  have hcolon := parts.colon_not_mem_joined
  unfold splitChars chars ending separator owner last
  cases hmember : parts.member with
  | some member => rw [Option.elim_some, splitFirst_append member hcolon]
  | none =>
      rw [Option.elim_none, List.append_nil, splitFirst_of_not_mem hcolon]
      rcases List.eq_nil_or_concat parts.later with hlater | ⟨init, leaf, hlater⟩
      · -- a single identifier has no module
        have hpath : parts.path = [parts.first] := by rw [path, hlater]
        have hdot := parts.dot_not_mem_path parts.first List.mem_cons_self
        have hjoined : Text.joinChars '.' [parts.first] = parts.first := List.append_nil _
        simp only [hpath, hlater, hjoined, splitLast_of_not_mem hdot]
        rfl
      · have hpath : parts.path = (parts.first :: init) ++ [leaf] := by rw [path, hlater]; simp
        have hleaf : leaf ∈ parts.path := by simp [hpath]
        have hdot := parts.dot_not_mem_path leaf hleaf
        have hjoined : Text.joinChars '.' parts.path =
            Text.joinChars '.' (parts.first :: init) ++ '.' :: leaf := by
          rw [hpath, Text.joinChars_append '.' [leaf] (List.cons_ne_nil _ _)]
          simp
        have hne : parts.later ≠ [] := by simp [hlater]
        rw [hjoined, splitLast_append _ hdot]
        simp only [hpath, hne, if_false, List.dropLast_concat, List.getLast_concat]

theorem moduleOf_text : moduleOf parts.text = parts.ownerText := by
  unfold moduleOf text ownerText
  rw [String.toList_ofList, splitChars_chars]

theorem attributeOf_text : attributeOf parts.text = parts.lastText := by
  unfold attributeOf text lastText
  rw [String.toList_ofList, splitChars_chars]

/-- Module, separator and last identifier make up the reference. -/
theorem reassembled :
    parts.ownerText ++ String.ofList parts.separator.toList ++ parts.lastText = parts.text := by
  have hassembled := assemble_split parts.chars
  rw [splitChars_chars] at hassembled
  unfold ownerText lastText text
  rw [← String.ofList_append, ← String.ofList_append]
  exact congrArg String.ofList hassembled

theorem ownerText_eq_empty_iff : parts.ownerText = "" ↔ parts.owner = [] := by
  unfold ownerText
  rw [String.ofList_eq_empty_iff]
  cases howner : parts.owner with
  | nil => simp [Text.joinChars]
  | cons part later =>
      have hpart : part ≠ [] := Text.ne_nil_of_isIdentifier
        (parts.identifiers_owner part (howner ▸ List.mem_cons_self))
      simp [Text.joinChars, hpart]

end Parts

/-- What may follow a module in the text of a reference: nothing, or a separator. -/
def EndsModule (rest : List Char) : Prop :=
  rest = [] ∨ ∃ c after, rest = c :: after ∧ (c = '.' ∨ c = ':')

theorem liesIn_iff_endsModule {owner reference : String} :
    liesIn owner reference = true ↔
      ∃ rest, reference.toList = owner.toList ++ rest ∧ EndsModule rest := by
  unfold liesIn
  rw [Bool.and_eq_true_iff, List.isPrefixOf_iff_prefix]
  constructor
  · rintro ⟨⟨rest, hrest⟩, hends⟩
    rw [← hrest, List.drop_left] at hends
    refine ⟨rest, hrest.symm, ?_⟩
    cases rest with
    | nil => exact .inl rfl
    | cons c after => exact .inr ⟨c, after, rfl, by simpa using hends⟩
  · rintro ⟨rest, hrest, hends⟩
    rw [hrest, List.drop_left]
    refine ⟨List.prefix_append _ _, ?_⟩
    rcases hends with rfl | ⟨c, after, rfl, hc⟩
    · rfl
    · simpa using hc

namespace Parts

variable (parts : Parts)

theorem endsModule_ending : EndsModule parts.ending := by
  unfold ending
  cases parts.member with
  | none => exact .inl rfl
  | some member => exact .inr ⟨':', member, rfl, .inr rfl⟩

/-- A text without a colon with which a reference begins, and that may be a module there, ends in
the path of the reference, before a dot or at the end. -/
theorem exists_joined_eq {front rest : List Char} (hcolon : ':' ∉ front)
    (hchars : Text.joinChars '.' parts.path ++ parts.ending = front ++ rest)
    (hends : EndsModule rest) :
    ∃ back, Text.joinChars '.' parts.path = front ++ back ∧
      (back = [] ∨ ∃ after, back = '.' :: after) := by
  rcases List.append_eq_append_iff.1 hchars with ⟨mid, hfront, hending⟩ | ⟨mid, hjoined, hrest⟩
  · -- nothing of the ending, which begins with a colon, is in the front
    cases mid with
    | nil => exact ⟨[], by rw [hfront, List.append_nil, List.append_nil], .inl rfl⟩
    | cons c after =>
        have hmem : c ∈ front := hfront ▸ List.mem_append_right _ List.mem_cons_self
        unfold ending at hending
        cases hmember : parts.member with
        | none =>
            rw [hmember] at hending
            cases hending
        | some member =>
            rw [hmember] at hending
            have hc : ':' = c := (List.cons.inj hending).1
            exact absurd (hc ▸ hmem) hcolon
  · refine ⟨mid, hjoined, ?_⟩
    cases mid with
    | nil => exact .inl rfl
    | cons c after =>
        rcases hends with hnil | ⟨d, later, hcons, hd⟩
        · rw [hnil] at hrest
          cases hrest
        · have hc : d = c := (List.cons.inj (hcons.symm.trans hrest)).1
          have hmem : c ∈ Text.joinChars '.' parts.path :=
            hjoined ▸ List.mem_append_right _ List.mem_cons_self
          rcases hd with hdot | hd
          · exact .inr ⟨after, by rw [← hc, hdot]⟩
          · exact absurd (hd ▸ hc ▸ hmem) parts.colon_not_mem_joined

/-- A reference lies in a module exactly when its path begins with the identifiers of the module. -/
theorem liesIn_iff {owner : List (List Char)} (hne : owner ≠ [])
    (hproper : ∀ part ∈ owner, Text.isIdentifier part = true) :
    liesIn (String.ofList (Text.joinChars '.' owner)) parts.text = true ↔ owner <+: parts.path := by
  have hcolon : ':' ∉ Text.joinChars '.' owner := Text.not_mem_joinChars (by decide)
    fun part hmem => Text.not_mem_of_isIdentifier (hproper part hmem) (by decide)
  have hdot : ∀ part ∈ owner, '.' ∉ part :=
    fun part hmem => Text.not_mem_of_isIdentifier (hproper part hmem) (by decide)
  rw [liesIn_iff_endsModule, text, String.toList_ofList, String.toList_ofList, chars]
  constructor
  · rintro ⟨rest, hrest, hends⟩
    obtain ⟨back, hjoined, hback⟩ := parts.exists_joined_eq hcolon hrest hends
    have hpath := Text.splitChars_joinChars parts.path_ne_nil parts.dot_not_mem_path
    rw [hjoined] at hpath
    rcases hback with rfl | ⟨after, rfl⟩
    · rw [List.append_nil, Text.splitChars_joinChars hne hdot] at hpath
      exact hpath ▸ List.prefix_refl owner
    · rw [Text.splitChars_append, Text.splitChars_joinChars hne hdot] at hpath
      exact ⟨_, hpath⟩
  · rintro ⟨more, hmore⟩
    rw [← hmore, Text.joinChars_append '.' more hne, List.append_assoc]
    refine ⟨_, rfl, ?_⟩
    cases more with
    | nil => exact parts.endsModule_ending
    | cons part later => exact .inr ⟨'.', _, rfl, .inl rfl⟩

end Parts

end Reference

end DataCatalog
