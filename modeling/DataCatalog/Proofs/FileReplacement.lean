import DataCatalog.Host.FileStore

/-!
# Replacing a file

A path is replaced by way of its directory: the directory is looked for, and the last part of the
path names the file in it.  `locate_of_directory` says that this is where the path itself leads,
however its slashes and dots are written.

Main statement: `replaced_of_replace` says that a store after a replacement has the new text at the
path, that paths lead where they led, and that every other location holds what it held.
-/

set_option autoImplicit false

namespace DataCatalog

/-! ## The directory and the last part of a path -/

namespace Text

/-- A text is its last part alone, or that part after a separator. -/
theorem exists_last_part {α : Type} [DecidableEq α] (separator : α) (cs : List α) :
    ∃ last, separator ∉ last ∧ (cs = last ∨ ∃ front, cs = front ++ separator :: last) := by
  induction cs with
  | nil => exact ⟨[], List.not_mem_nil, .inl rfl⟩
  | cons c rest ih =>
      obtain ⟨last, hlast, rfl | ⟨front, rfl⟩⟩ := ih
      · by_cases hc : c = separator
        · exact ⟨rest, hlast, .inr ⟨[], by rw [hc]; rfl⟩⟩
        · refine ⟨c :: rest, ?_, .inl rfl⟩
          intro hmem
          rcases List.mem_cons.1 hmem with heq | hmem
          · exact hc heq.symm
          · exact hlast hmem
      · exact ⟨last, hlast, .inr ⟨c :: front, rfl⟩⟩

end Text

namespace SystemText

theorem parts_append (front back : List UInt8) :
    parts ⟨front ++ slash :: back⟩ = parts ⟨front⟩ ++ parts ⟨back⟩ := by
  unfold parts
  rw [Text.splitChars_append, List.map_append]

theorem parts_of_not_mem {path : SystemText} (h : slash ∉ path.bytes) : path.parts = [path] := by
  unfold parts
  rw [Text.splitChars_of_not_mem h]
  rfl

theorem dropTrailing_of_ne {b : UInt8} {rest : List UInt8} (hslash : b ≠ slash)
    (hdot : b = dot → rest.head? ≠ some slash) : dropTrailing (b :: rest) = b :: rest := by
  rw [dropTrailing, if_neg hslash, if_neg fun h => hdot h.1 h.2]

/-- What is dropped from the end of a path that is written backwards is a slash or a dot at a
time. -/
theorem dropTrailing_induction {motive : List UInt8 → List UInt8 → Prop}
    (root : motive [slash] [slash])
    (slash : ∀ rest, rest ≠ [] → motive rest (dropTrailing rest) →
      motive (slash :: rest) (dropTrailing rest))
    (dot : ∀ rest, motive (SystemText.slash :: rest) (dropTrailing (SystemText.slash :: rest)) →
      motive (dot :: SystemText.slash :: rest) (dropTrailing (SystemText.slash :: rest)))
    (stop : ∀ bytes, motive bytes bytes) (bytes : List UInt8) :
    motive bytes (dropTrailing bytes) := by
  induction bytes with
  | nil => exact stop []
  | cons b rest ih =>
      unfold dropTrailing
      split
      · rename_i hb
        subst hb
        split
        · rename_i hrest
          subst hrest
          exact root
        · rename_i hrest
          exact slash rest hrest ih
      · split
        · rename_i hdot
          obtain ⟨rfl, hhead⟩ := hdot
          obtain ⟨later, rfl⟩ := List.head?_eq_some_iff.1 hhead
          exact dot later ih
        · exact stop (b :: rest)

/-- Dropping takes something off the end of a path that is written backwards, but never all. -/
theorem dropTrailing_suffix (bytes : List UInt8) :
    dropTrailing bytes <:+ bytes ∧ (bytes ≠ [] → dropTrailing bytes ≠ []) := by
  induction bytes using dropTrailing_induction with
  | root => exact ⟨List.suffix_refl _, id⟩
  | slash rest hrest ih => exact ⟨ih.1.trans (List.suffix_cons _ _), fun _ => ih.2 hrest⟩
  | dot rest ih => exact ⟨ih.1.trans (List.suffix_cons _ _), fun _ => ih.2 (List.cons_ne_nil _ _)⟩
  | stop bytes => exact ⟨List.suffix_refl _, id⟩

/-- Nothing is dropped after a proper last part. -/
theorem dropTrailing_of_last {last : List UInt8} (front : List UInt8) (hlast : slash ∉ last)
    (hempty : last ≠ []) (hdot : last ≠ [dot]) :
    dropTrailing (last.reverse ++ front) = last.reverse ++ front := by
  have hmem : ∀ b ∈ last.reverse, b ≠ slash :=
    fun b hb heq => hlast (heq ▸ List.mem_reverse.1 hb)
  cases hrev : last.reverse with
  | nil => exact absurd (List.reverse_eq_nil_iff.1 hrev) hempty
  | cons b more =>
      rw [hrev] at hmem
      apply dropTrailing_of_ne (hmem b List.mem_cons_self)
      rintro rfl
      cases more with
      | nil =>
          -- the last part would be a single dot
          exact absurd (by simpa using congrArg List.reverse hrev) hdot
      | cons c rest => exact fun heq => hmem c (by simp) (Option.some.inj heq)

/-- The parent of a path, before a proper last part and the slash in front of it. -/
theorem parent?_eq {path : SystemText} {before last : List UInt8}
    (hpath : path.bytes = before ++ last) (hlast : slash ∉ last) (hempty : last ≠ [])
    (hdot : last ≠ [dot]) (hbefore : before = [] ∨ ∃ front, before = front ++ [slash]) :
    path.parent? = some ⟨(dropTrailing before.reverse).reverse⟩ := by
  have hdrop : dropTrailing path.bytes.reverse = last.reverse ++ before.reverse := by
    rw [hpath, List.reverse_append]
    exact dropTrailing_of_last _ hlast hempty hdot
  have hbytes : ∀ b ∈ last.reverse, decide (b ≠ slash) = true :=
    fun b hb => decide_eq_true fun heq => hlast (heq ▸ List.mem_reverse.1 hb)
  have hrest : (last.reverse ++ before.reverse).dropWhile (· ≠ slash) = before.reverse := by
    rw [List.dropWhile_append_of_pos hbytes]
    rcases hbefore with rfl | ⟨front, rfl⟩
    · rfl
    · simp
  have hkept :
      ¬(last.reverse ++ before.reverse = [] ∨ last.reverse ++ before.reverse = [slash]) := by
    cases hrev : last.reverse with
    | nil => exact absurd (List.reverse_eq_nil_iff.1 hrev) hempty
    | cons b more =>
        have hb : b ∈ last := List.mem_reverse.1 (hrev ▸ List.mem_cons_self)
        rintro (hnil | hroot)
        · cases hnil
        · exact hlast ((List.cons.inj hroot).1 ▸ hb)
  unfold parent?
  rw [hdrop, if_neg hkept, hrest]

theorem directory_of_last_alone {path : SystemText} (h : slash ∉ path.bytes)
    (hempty : path ≠ "") (hdot : path ≠ ".") : path.directory = "." := by
  have hbytes : path.bytes = [] ++ path.bytes := rfl
  have hparent := parent?_eq hbytes h (fun heq => hempty (SystemText.ext heq))
    (fun heq => hdot (SystemText.ext heq)) (.inl rfl)
  unfold directory
  rw [hparent]
  rfl

theorem directory_of_last {path : SystemText} {front last : List UInt8}
    (hpath : path.bytes = front ++ slash :: last) (hlast : slash ∉ last) (hempty : last ≠ [])
    (hdot : last ≠ [dot]) : path.directory = ⟨(dropTrailing (slash :: front.reverse)).reverse⟩ := by
  have hbytes : path.bytes = (front ++ [slash]) ++ last := by simp [hpath]
  have hparent := parent?_eq hbytes hlast hempty hdot (.inr ⟨front, rfl⟩)
  rw [List.reverse_append, List.reverse_singleton, List.singleton_append] at hparent
  have hne := (dropTrailing_suffix (slash :: front.reverse)).2 (List.cons_ne_nil _ _)
  unfold directory
  rw [hparent]
  exact if_neg fun hnil => hne (List.reverse_eq_nil_iff.1 hnil)

theorem isAbsolute_of_not_mem {path : SystemText} (h : slash ∉ path.bytes) :
    path.isAbsolute = false := by
  unfold isAbsolute
  cases hbytes : path.bytes with
  | nil => rfl
  | cons b rest =>
      rw [hbytes] at h
      simpa using fun heq : b = slash => h (heq ▸ List.mem_cons_self)

/-- A directory begins as the path does. -/
theorem directory_begins {path : SystemText} {front last : List UInt8}
    (hpath : path.bytes = front ++ slash :: last) :
    let directory : SystemText := ⟨(dropTrailing (slash :: front.reverse)).reverse⟩
    directory ≠ "" ∧ directory.isAbsolute = path.isAbsolute := by
  intro directory
  obtain ⟨⟨dropped, hdropped⟩, hkept⟩ := dropTrailing_suffix (slash :: front.reverse)
  have hall : directory.bytes ++ (dropped.reverse ++ last) = path.bytes := by
    have hreverse := congrArg List.reverse hdropped
    simp only [List.reverse_append, List.reverse_cons, List.reverse_reverse] at hreverse
    rw [← List.append_assoc, hreverse, hpath]
    simp
  have hne : directory.bytes ≠ [] :=
    fun hnil => hkept (List.cons_ne_nil _ _) (List.reverse_eq_nil_iff.1 hnil)
  exact ⟨fun heq => hne (congrArg bytes heq), (isAbsolute_of_append hall.symm hne).symm⟩

end SystemText

namespace FileStore

variable {s : FileStore}

theorem follow_append (start : Location) (first second : List SystemText) :
    s.follow start (first ++ second) =
      (s.follow start first).bind fun middle => s.follow middle second := by
  induction first generalizing start with
  | nil => rfl
  | cons part rest ih =>
      simp only [List.cons_append, follow]
      split
      · rfl
      · split
        · exact ih start
        · split
          · exact ih _
          · split
            · exact ih _
            · rfl

/-- An empty part, and a single dot, stay in a directory. -/
theorem follow_stay_iff {part : SystemText} (h : part = "" ∨ part = ".")
    {start location : Location} :
    s.follow start [part] = some location ↔ s.isDirectory start = true ∧ start = location := by
  have hpart : (part == "" || part == ".") = true := by
    rcases h with rfl | rfl <;> rfl
  unfold follow follow
  rw [if_pos hpart]
  cases s.isDirectory start with
  | true => simp
  | false => simp

/-- Whatever is dropped from the end of a directory, it leads to the same place. -/
theorem follow_of_dropTrailing {start location : Location} (hdir : s.isDirectory location = true)
    (bytes : List UInt8) :
    s.follow start (SystemText.parts ⟨(SystemText.dropTrailing bytes).reverse⟩) = some location →
      s.follow start (SystemText.parts ⟨bytes.reverse⟩) = some location := by
  induction bytes using SystemText.dropTrailing_induction with
  | root => exact id
  | stop bytes => exact id
  | slash rest hrest ih =>
      intro h
      rw [List.reverse_cons, SystemText.parts_append, follow_append, ih h]
      exact (follow_stay_iff (.inl rfl)).2 ⟨hdir, rfl⟩
  | dot rest ih =>
      intro h
      have hslash := ih h
      rw [List.reverse_cons, SystemText.parts_append, follow_append] at hslash
      obtain ⟨middle, hmiddle, hstay⟩ := Option.bind_eq_some_iff.1 hslash
      obtain ⟨-, rfl⟩ := (follow_stay_iff (.inl rfl)).1 hstay
      rw [List.reverse_cons, List.reverse_cons, List.append_assoc, List.singleton_append,
        SystemText.parts_append, follow_append, hmiddle]
      exact (follow_stay_iff (.inr rfl)).2 ⟨hdir, rfl⟩

theorem locate_eq {path : SystemText} (h : path ≠ "") :
    s.locate path = s.follow (if path.isAbsolute then [] else s.workingDirectory) path.parts := by
  unfold locate
  rw [if_neg h]

/-- What the name of a file is like. -/
structure IsFileName (name : SystemText) : Prop where
  not_empty : name ≠ ""
  not_dot : name ≠ "."
  not_up : name ≠ ".."
  isName : FileStore.isName name = true

theorem IsFileName.follow {name : SystemText} (h : IsFileName name) {location : Location}
    (hdir : s.isDirectory location = true) :
    s.follow location [name] = some (location ++ [name]) := by
  have hstay : (name == "" || name == ".") = false := by
    simp [h.not_empty, h.not_dot]
  have hup : (name == "..") = false := by simp [h.not_up]
  unfold FileStore.follow FileStore.follow
  simp [hdir, hstay, hup, h.isName]

/-- The name that a path gives to a file is its last part. -/
theorem exists_of_fileName? {path name : SystemText} (h : fileName? path = some name) :
    IsFileName name ∧ SystemText.slash ∉ name.bytes ∧
      (path = name ∨ ∃ front, path.bytes = front ++ SystemText.slash :: name.bytes) := by
  obtain ⟨last, hlast, hpath⟩ := Text.exists_last_part SystemText.slash path.bytes
  have halone : SystemText.parts ⟨last⟩ = [⟨last⟩] := SystemText.parts_of_not_mem hlast
  have hend : path.parts.getLast? = some ⟨last⟩ := by
    rcases hpath with hpath | ⟨front, hpath⟩
    · have heq : path = ⟨last⟩ := SystemText.ext hpath
      rw [heq, halone]
      rfl
    · have heq : path = ⟨front ++ SystemText.slash :: last⟩ := SystemText.ext hpath
      rw [heq, SystemText.parts_append, halone, List.getLast?_concat]
  unfold fileName? at h
  rw [hend, Option.filter_eq_some_iff] at h
  obtain ⟨hname, hproper⟩ := h
  rw [← Option.some.inj hname] at hproper ⊢
  simp only [Bool.and_eq_true, bne_iff_ne, ne_eq] at hproper
  refine ⟨⟨hproper.1.1.1, hproper.1.1.2, hproper.1.2, hproper.2⟩, hlast, ?_⟩
  exact hpath.imp_left SystemText.ext

/-- A path leads to its last part in its directory. -/
theorem locate_of_directory {path name : SystemText} {location : Location}
    (hname : fileName? path = some name) (hlocate : s.locate path.directory = some location)
    (hdir : s.isDirectory location = true) : s.locate path = some (location ++ [name]) := by
  obtain ⟨hproper, hslash, rfl | ⟨front, hpath⟩⟩ := exists_of_fileName? hname
  · -- the name alone is looked for where paths are followed from
    rw [SystemText.directory_of_last_alone hslash hproper.not_empty hproper.not_dot,
      locate_eq (by decide)] at hlocate
    have hrelative := SystemText.isAbsolute_of_not_mem hslash
    obtain ⟨-, rfl⟩ := (follow_stay_iff (.inr rfl)).1 hlocate
    rw [locate_eq hproper.not_empty, hrelative, SystemText.parts_of_not_mem hslash]
    exact hproper.follow hdir
  · have hdirectory := SystemText.directory_of_last hpath hslash
      (fun heq => hproper.not_empty (SystemText.ext heq))
      (fun heq => hproper.not_dot (SystemText.ext heq))
    obtain ⟨hempty, hstart⟩ := SystemText.directory_begins hpath
    have hfull : path = ⟨front ++ SystemText.slash :: name.bytes⟩ := SystemText.ext hpath
    have hpathEmpty : path ≠ "" := by
      rintro rfl
      have hnil : [] = front ++ SystemText.slash :: name.bytes := hpath
      simp at hnil
    rw [hdirectory, locate_eq hempty, hstart] at hlocate
    have hfollow := follow_of_dropTrailing hdir _ hlocate
    rw [List.reverse_cons, List.reverse_reverse, SystemText.parts_append, follow_append] at hfollow
    obtain ⟨middle, hmiddle, hstay⟩ := Option.bind_eq_some_iff.1 hfollow
    obtain ⟨-, rfl⟩ := (follow_stay_iff (.inl rfl)).1 hstay
    rw [locate_eq hpathEmpty, hfull, SystemText.parts_append, follow_append, ← hfull, hmiddle,
      Option.bind_some, SystemText.parts_of_not_mem hslash]
    exact hproper.follow hdir

/-! ## What a replacement changes -/

/-- A store with a new text at a path, and the same store everywhere else. -/
structure Replaced (before : FileStore) (path : SystemText) (text : String) (after : FileStore) :
    Prop where
  text : after.readText path = some text
  /-- Every path leads to the location to which it led. -/
  locate : ∀ other, after.locate other = before.locate other
  elsewhere : ∀ location, before.locate path ≠ some location →
    after.node? location = before.node? location

/-- A file in place of no directory leaves all directories as they are. -/
theorem isDirectory_put_file {location : Location} (h : s.isDirectory location = false)
    (content : FileContent) (other : Location) :
    (s.put location (.file content)).isDirectory other = s.isDirectory other := by
  have hroot : location ≠ [] := by
    rintro rfl
    cases h
  unfold isDirectory
  rw [node?_put s location other _ hroot]
  split
  · rename_i heq
    rw [heq]
    exact h.symm
  · rfl

theorem follow_congr {s' : FileStore}
    (h : ∀ location, s'.isDirectory location = s.isDirectory location) (start : Location)
    (parts : List SystemText) : s'.follow start parts = s.follow start parts := by
  induction parts generalizing start with
  | nil => rfl
  | cons part rest ih => simp only [follow, h, ih]

/-- A file in place of no directory leads every path to where it led. -/
theorem locate_put_file {location : Location} (h : s.isDirectory location = false)
    (content : FileContent) (path : SystemText) :
    (s.put location (.file content)).locate path = s.locate path := by
  unfold locate
  rw [follow_congr (isDirectory_put_file h content)]
  rfl

theorem replaced_of_put {path : SystemText} {text : String} {location : Location}
    (hlocate : s.locate path = some location) (hfree : s.isDirectory location = false) :
    s.Replaced path text (s.put location (.file (.text text))) := by
  have hroot : location ≠ [] := by
    rintro rfl
    cases hfree
  have hpaths := locate_put_file hfree (.text text)
  refine ⟨?_, hpaths, ?_⟩
  · have hfound : (s.put location (.file (.text text))).find? path = some (.file (.text text)) := by
      unfold find?
      rw [hpaths, hlocate]
      show (s.put location (.file (.text text))).node? location = _
      rw [node?_put s location location _ hroot, if_pos rfl]
    unfold readText
    rw [hfound]
  · intro other hother
    have hne : other ≠ location := by
      rintro rfl
      exact hother hlocate
    rw [node?_put s location other _ hroot, if_neg hne]

/-- A replacement succeeds when the directory is there and the path names a file in it, of which
there is no directory. -/
theorem replace_eq_ok_iff {s' : FileStore} {path : SystemText} {text : String} :
    s.replace path text = .ok s' ↔
      ∃ location name, s.locate path.directory = some location ∧
        s.isDirectory location = true ∧ fileName? path = some name ∧
        s.isDirectory (location ++ [name]) = false ∧
        s' = s.put (location ++ [name]) (.file (.text text)) := by
  unfold replace
  dsimp only
  constructor
  · intro h
    split at h
    · cases h
    · rename_i location hlocate
      split at h
      · cases h
      · rename_i hdir
        split at h
        · cases h
        · rename_i name hname
          split at h
          · cases h
          · rename_i hfree
            cases h
            exact ⟨location, name, hlocate, by simpa using hdir, hname, by simpa using hfree, rfl⟩
  · rintro ⟨location, name, hlocate, hdir, hname, hfree, rfl⟩
    simp [hlocate, hdir, hname, hfree]

/-- A replacement that succeeds changes the text at its path and nothing else. -/
theorem replaced_of_replace {s' : FileStore} {path : SystemText} {text : String}
    (h : s.replace path text = .ok s') : s.Replaced path text s' := by
  obtain ⟨location, name, hlocate, hdir, hname, hfree, rfl⟩ := replace_eq_ok_iff.1 h
  exact replaced_of_put (locate_of_directory hname hlocate hdir) hfree

end FileStore

end DataCatalog
