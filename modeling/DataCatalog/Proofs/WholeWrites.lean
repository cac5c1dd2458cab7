import DataCatalog.Host.Disk
import DataCatalog.Proofs.Footprint

/-!
# Writing a whole file or nothing

On a disk a file is replaced by way of a temporary file, and every step can break off.
`FileStore.HasTemporary` says where a replacement is as long as it is under way: the store is as it
was, with a temporary file at a location that held nothing.  Filling the file keeps this, removing
it ends it with the store as it was, and giving it the name of the path is a replacement.

Main statement: `FileSource.write_whole_or_not` says that a write replaces the file at its path and
changes nothing else, or that it fails and leaves the world as it was; data that the format cannot
take makes it fail before anything is begun.
-/

set_option autoImplicit false

namespace DataCatalog

namespace FileStore

variable {s before during : FileStore} {temporary : Location}

/-! ## Taking a file away -/

theorem remove_of_node?_eq_none {location : Location} (h : s.node? location = none) :
    s.remove location = s := by
  have hroot : location ≠ [] := by
    rintro rfl
    cases h
  have hlookup : s.nodes.lookup location = none := by
    unfold node? at h
    rwa [if_neg hroot] at h
  have hkept : s.nodes.filter (·.1 != location) = s.nodes := by
    refine List.filter_eq_self.2 fun entry hmem => ?_
    have hne := List.lookup_eq_none_iff.1 hlookup entry hmem
    rw [bne_comm]
    simpa using hne
  unfold remove
  rw [hkept]

@[simp] theorem remove_put (s : FileStore) (location : Location) (node : FileNode) :
    (s.put location node).remove location = s.remove location := by
  simp [remove, put]

@[simp] theorem put_put (s : FileStore) (location : Location) (node node' : FileNode) :
    (s.put location node).put location node' = s.put location node' := by
  simp [put]

/-! ## A replacement under way -/

/-- A store as it was before a replacement, but for a temporary file at a location that held
nothing. -/
structure HasTemporary (before : FileStore) (temporary : Location) (content : FileContent)
    (during : FileStore) : Prop where
  free : before.node? temporary = none
  added : during = before.put temporary (.file content)

/-- A temporary file is made in the directory that is asked for, and where nothing is. -/
theorem exists_of_make {conditions : DiskConditions} {directory : SystemText} {made : FileStore}
    (h : s.makeTemporary conditions directory = some (temporary, made)) :
    (∃ location, s.locate directory = some location ∧ s.isDirectory location = true) ∧
      HasTemporary s temporary (.text "") made := by
  unfold makeTemporary at h
  cases hlocate : s.locate directory with
  | none =>
      rw [hlocate] at h
      cases h
  | some location =>
      simp only [hlocate, Option.ite_none_right_eq_some, Bool.and_eq_true,
        Option.map_eq_some_iff] at h
      obtain ⟨⟨hdir, -⟩, name, hname, hmade⟩ := h
      obtain ⟨rfl, rfl⟩ := Prod.mk.inj hmade
      have hfree := List.find?_some hname
      simp only [isFree, Bool.and_eq_true, Option.isNone_iff_eq_none] at hfree
      exact ⟨⟨location, rfl, hdir⟩, hfree.2, rfl⟩

/-- A directory in which a temporary file can be made is not to blame for a failure. -/
theorem blamed_of_make {conditions : DiskConditions} {path blamed : SystemText} {text : String}
    {found : Location × FileStore}
    (hmake : s.makeTemporary conditions path.directory = some found)
    (h : s.replace path text = .error blamed) : blamed = path := by
  obtain ⟨⟨location, hlocate, hdir⟩, -⟩ := exists_of_make hmake
  unfold replace at h
  simp only [hlocate, hdir, Bool.not_true, Bool.false_eq_true, if_false] at h
  split at h
  · exact (Except.error.inj h).symm
  · split at h
    · exact (Except.error.inj h).symm
    · cases h

namespace HasTemporary

variable {content : FileContent} (h : HasTemporary before temporary content during)
include h

/-- Whatever a temporary file is filled with, it is all that is added. -/
theorem put (later : FileContent) :
    HasTemporary before temporary later (during.put temporary (.file later)) := by
  obtain ⟨hfree, rfl⟩ := h
  exact ⟨hfree, put_put before temporary _ _⟩

/-- A temporary file that is removed leaves no trace. -/
theorem remove : during.remove temporary = before := by
  rw [h.added, remove_put, remove_of_node?_eq_none h.free]

theorem isDirectory (location : Location) :
    during.isDirectory location = before.isDirectory location := by
  have hfree : before.isDirectory temporary = false := by
    unfold FileStore.isDirectory
    rw [h.free]
    rfl
  rw [h.added]
  exact isDirectory_put_file hfree content location

theorem locate (path : SystemText) : during.locate path = before.locate path := by
  unfold FileStore.locate
  rw [follow_congr h.isDirectory, h.added]
  rfl

theorem node?_temporary : during.node? temporary = some (.file content) := by
  have hroot : temporary ≠ [] := by
    rintro rfl
    cases h.free
  rw [h.added, node?_put before temporary temporary _ hroot, if_pos rfl]

end HasTemporary

/-- Giving a whole temporary file the name of a path replaces the file that has it. -/
theorem HasTemporary.persist_eq_some_iff {text : String}
    (h : HasTemporary before temporary (.text text) during) {conditions : DiskConditions}
    {path : SystemText} {after : FileStore} :
    during.persistTemporary conditions temporary path = some after ↔
      conditions.renames = true ∧ before.replace path text = .ok after := by
  rw [replace_eq_ok_iff]
  unfold persistTemporary
  rw [h.locate, h.node?_temporary, h.remove]
  constructor
  · intro hpersist
    split at hpersist
    · rename_i location name node hlocate hname hnode
      simp only [h.isDirectory, Option.ite_none_right_eq_some, Bool.and_eq_true,
        Bool.not_eq_true'] at hpersist
      obtain ⟨⟨⟨hdir, hfree⟩, hrenames⟩, hafter⟩ := hpersist
      cases hnode
      exact ⟨hrenames, location, name, hlocate, hdir, hname, hfree,
        (Option.some.inj hafter).symm⟩
    · cases hpersist
  · rintro ⟨hrenames, location, name, hlocate, hdir, hname, hfree, rfl⟩
    simp [hlocate, hname, h.isDirectory, hdir, hfree, hrenames]

/-! ## A replacement as a whole -/

/-- From a temporary file on, a replacement is that of the store before it, unless it breaks off. -/
theorem HasTemporary.finish_eq {content : FileContent}
    (h : HasTemporary before temporary content during) (conditions : DiskConditions)
    (path : SystemText) (text : String) :
    during.finishTemporary conditions temporary path text =
      if conditions.broken? = none ∧ conditions.renames = true then
        match before.replace path text with
        | .ok after => (.ok (), after)
        | .error _ => (.error path, before)
      else (.error path, before) := by
  unfold finishTemporary fillTemporary
  cases hbroken : conditions.broken? with
  | some left => simp [(h.put left).remove]
  | none =>
      have hfilled := h.put (.text text)
      dsimp only
      cases hpersist : (during.put temporary (.file (.text text))).persistTemporary conditions
          temporary path with
      | some after =>
          obtain ⟨hrenames, hreplace⟩ := hfilled.persist_eq_some_iff.1 hpersist
          simp [hrenames, hreplace]
      | none =>
          dsimp only
          rw [hfilled.remove]
          cases hrenames : conditions.renames with
          | false => simp
          | true =>
              cases hreplace : before.replace path text with
              | error blamed => simp
              | ok after =>
                  rw [hfilled.persist_eq_some_iff.2 ⟨hrenames, hreplace⟩] at hpersist
                  cases hpersist

/-- A replacement is that of the store, or it fails and the store is as it was. -/
theorem replaceBeside_cases (s : FileStore) (conditions : DiskConditions)
    (path : SystemText) (text : String) :
    (∃ files, s.replace path text = .ok files ∧
      s.replaceBeside conditions path text = (.ok (), files)) ∨
    ∃ blamed, s.replaceBeside conditions path text = (.error blamed, s) := by
  unfold replaceBeside
  cases hmake : s.makeTemporary conditions path.directory with
  | none => exact .inr ⟨path.directory, rfl⟩
  | some found =>
      dsimp only
      rw [(exists_of_make hmake).2.finish_eq]
      split
      · cases s.replace path text with
        | ok files => exact .inl ⟨files, rfl, rfl⟩
        | error blamed => exact .inr ⟨path, rfl⟩
      · exact .inr ⟨path, rfl⟩

/-- Conditions under which nothing goes wrong with the replacement of a path. -/
structure Undisturbed (s : FileStore) (path : SystemText) (conditions : DiskConditions) : Prop where
  makes : conditions.makes = true
  fills : conditions.broken? = none
  renames : conditions.renames = true
  free : ∀ location, s.locate path.directory = some location →
    ∃ name ∈ conditions.names, s.isFree location name = true

/-- On a disk on which nothing goes wrong a replacement is that of the store. -/
theorem Undisturbed.replaceBeside_eq {path : SystemText} {conditions : DiskConditions}
    (h : s.Undisturbed path conditions) (text : String) :
    s.replaceBeside conditions path text =
      match s.replace path text with
      | .ok files => (.ok (), files)
      | .error blamed => (.error blamed, s) := by
  unfold replaceBeside
  cases hmake : s.makeTemporary conditions path.directory with
  | none =>
      have hdirectory : s.replace path text = .error path.directory := by
        unfold makeTemporary at hmake
        unfold replace
        dsimp only
        cases hlocate : s.locate path.directory with
        | none => rfl
        | some location =>
            obtain ⟨name, hname, hfree⟩ := h.free location hlocate
            cases hdir : s.isDirectory location with
            | false => simp [hdir]
            | true =>
                -- the directory is there, and a name in it is free
                simp only [hlocate, hdir, h.makes, Bool.and_self, if_true, Option.map_eq_none_iff,
                  List.find?_eq_none] at hmake
                exact absurd hfree (hmake name hname)
      rw [hdirectory]
  | some found =>
      dsimp only
      rw [(exists_of_make hmake).2.finish_eq, if_pos ⟨h.fills, h.renames⟩]
      cases hreplace : s.replace path text with
      | ok files => rfl
      | error blamed => rw [blamed_of_make hmake hreplace]

example : (FileStore.workingIn []).Undisturbed "log.txt" ⟨[".tmp7F3a"], true, none, true⟩ where
  makes := rfl
  fills := rfl
  renames := rfl
  free location h := by
    rw [SystemText.directory_of_last_alone (by decide) (by decide) (by decide)] at h
    obtain rfl : [] = location := Option.some.inj h
    exact ⟨_, List.mem_singleton_self _, rfl⟩

end FileStore

/-! ## Writing -/

namespace FileFormat

/-- A file of lines refuses the first element of a list that is no string, wherever it is. -/
theorem encodeLines_of_not_string {refused : Value} (h : ∀ text, refused ≠ .string text)
    (texts : List String) (later : List Value) :
    encodeLines (texts.map .string ++ refused :: later) =
      .error (.failed ("line files take strings, got " ++ refused.kind)) := by
  induction texts with
  | nil =>
      cases refused with
      | string text => exact absurd rfl (h text)
      | _ => rfl
  | cons text texts ih => simp only [List.map_cons, List.cons_append, encodeLines, ih]

end FileFormat

namespace FileSource

variable (path : String) (format : FileFormat) (data : Value)

/-- A file is written by one replacement, or by none if there is no text for the data. -/
theorem run_write_disk (d : Disk) :
    (write path format data : ExceptT CallError (StateM Disk) Unit).run.run d =
      match format.encode d.world.memory.describe data with
      | .error e => (.error e, d)
      | .ok content =>
          ((d.replacement path content).1.mapError (complaint ·.lossy),
            d.settle (d.replacement path content).2) := by
  unfold write
  rw [run_liftM_bind]
  have hdescribe : (Memory.descriptions : StateM Disk (Source → String)).run d =
      (d.world.memory.describe, d) := rfl
  rw [hdescribe]
  cases format.encode d.world.memory.describe data with
  | error e => rfl
  | ok content =>
      dsimp only
      rw [run_liftM_bind]
      have hreplace : (Files.replace path content : StateM Disk (Except SystemText Unit)).run d =
          ((d.replacement path content).1, d.settle (d.replacement path content).2) := rfl
      rw [hreplace]
      cases (d.replacement path content).1 with
      | error blamed => rfl
      | ok _ => rfl

/-- What a write makes of a world: its file has the text of the data and all else is as it was, or
the write failed and everything is as it was. -/
def WholeOrNot (before : World) (outcome : Except CallError Unit) (after : World) : Prop :=
  (outcome = .ok () ∧ ∃ content files, format.encode before.memory.describe data = .ok content ∧
      before.files.Replaced path content files ∧ after = { before with files }) ∨
    (∃ e, outcome = .error e) ∧ after = before

theorem wholeOrNot_disk (d : Disk) :
    let written := (write path format data : ExceptT CallError (StateM Disk) Unit).run.run d
    WholeOrNot path format data d.world written.1 written.2.world := by
  dsimp only
  rw [run_write_disk]
  cases hencode : format.encode d.world.memory.describe data with
  | error e => exact .inr ⟨⟨e, rfl⟩, rfl⟩
  | ok content =>
      dsimp only
      rcases d.world.files.replaceBeside_cases (d.conditions d.replacements) path content with
        ⟨files, hreplace, hdone⟩ | ⟨blamed, hdone⟩
      · have hreplacement : d.replacement path content = (.ok (), files) := hdone
        rw [hreplacement]
        exact .inl ⟨rfl, content, files, hencode, FileStore.replaced_of_replace hreplace, rfl⟩
      · have hreplacement : d.replacement path content = (.error blamed, d.world.files) := hdone
        rw [hreplacement]
        exact .inr ⟨⟨complaint blamed.lossy, rfl⟩, rfl⟩

theorem wholeOrNot_world (w : World) :
    let written := (write path format data : ExceptT CallError (StateM World) Unit).run.run w
    WholeOrNot path format data w written.1 written.2 := by
  dsimp only
  rcases write_cases path format data w with
    ⟨e, hfailed⟩ | ⟨content, files, hencode, hreplace, hdone⟩
  · rw [hfailed]
    exact .inr ⟨⟨e, rfl⟩, rfl⟩
  · rw [hdone]
    exact .inl ⟨rfl, content, files, hencode, FileStore.replaced_of_replace hreplace, rfl⟩

/-- On a disk on which nothing goes wrong, a write is one to its world. -/
theorem run_write_of_undisturbed {d : Disk}
    (h : d.world.files.Undisturbed path (d.conditions d.replacements)) :
    let written := (write path format data : ExceptT CallError (StateM Disk) Unit).run.run d
    (write path format data : ExceptT CallError (StateM World) Unit).run.run d.world =
      (written.1, written.2.world) := by
  dsimp only
  rw [run_write, run_write_disk]
  cases format.encode d.world.memory.describe data with
  | error e => rfl
  | ok content =>
      have hreplacement : d.replacement path content = _ := h.replaceBeside_eq content
      dsimp only
      rw [hreplacement]
      cases d.world.files.replace path content with
      | ok files => rfl
      | error blamed => rfl

/-- A write replaces the file at its path, whole, or fails and leaves the world as it was, with no
temporary file in it, whichever step it is that fails.  Data without a text is refused before
anything is begun, wherever in a list it is that a file of lines cannot take it.  On a disk on which
nothing goes wrong, a write is one to its world. -/
theorem write_whole_or_not (d : Disk) :
    let written := (write path format data : ExceptT CallError (StateM Disk) Unit).run.run d
    let settled := (write path format data : ExceptT CallError (StateM World) Unit).run.run d.world
    WholeOrNot path format data d.world written.1 written.2.world ∧
    WholeOrNot path format data d.world settled.1 settled.2 ∧
    (∀ e, format.encode d.world.memory.describe data = .error e →
      written = (.error e, d) ∧ settled = (.error e, d.world)) ∧
    (∀ (texts : List String) (refused : Value) (later : List Value), format = .lines →
      data = .list (texts.map .string ++ refused :: later) → (∀ text, refused ≠ .string text) →
      format.encode d.world.memory.describe data =
        .error (.failed ("line files take strings, got " ++ refused.kind))) ∧
    (d.world.files.Undisturbed path (d.conditions d.replacements) →
      settled = (written.1, written.2.world)) := by
  intro written settled
  refine ⟨wholeOrNot_disk path format data d, wholeOrNot_world path format data d.world, ?_, ?_,
    run_write_of_undisturbed path format data⟩
  · intro e hencode
    have hwritten : written = _ := run_write_disk path format data d
    have hsettled : settled = _ := run_write path format data d.world
    rw [hencode] at hwritten hsettled
    exact ⟨hwritten, hsettled⟩
  · rintro texts refused later rfl rfl hstring
    exact FileFormat.encodeLines_of_not_string hstring texts later

end FileSource

end DataCatalog
