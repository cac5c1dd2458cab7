import DataCatalog.Proofs.Coupling

/-!
# Looking at files without reading them

Building a source touches no file, and a validator asks of a file only whether it is there and
whether it has content.  Stores that agree in this look alike (`FileStore.LooksLike`), whatever the
files in them hold.

Main statement: `Catalog.blind_to_contents` says that the source of a dataset is the same with any
files, that its validation is the same with files that look alike, and that neither changes a file.
-/

set_option autoImplicit false

namespace DataCatalog

/-! ## Stores that look alike -/

namespace FileStore

/-- Of every path it is the same in both stores whether something is there, and whether it has
content. -/
structure LooksLike (s s' : FileStore) : Prop where
  isPresent : ∀ path, s.isPresent path = s'.isPresent path
  hasContent : ∀ path, s.hasContent path = s'.hasContent path

variable {s : FileStore} {location : Location}

/-- What is found after something was put in place of a file. -/
theorem find?_put_file (hfree : s.isDirectory location = false) (content : FileContent)
    (path : SystemText) :
    (s.put location (.file content)).find? path =
      if s.locate path = some location then some (.file content) else s.find? path := by
  have hroot : location ≠ [] := by
    rintro rfl
    cases hfree
  unfold find?
  rw [locate_put_file hfree]
  cases s.locate path with
  | none => rfl
  | some found => simp [node?_put s location found _ hroot]

/-- A store looks as before when a file is given another content, as long as an empty file stays
empty and no other becomes so. -/
theorem LooksLike.put_file {before after : FileContent}
    (hfound : s.node? location = some (.file before)) (hempty : after.isEmpty = before.isEmpty) :
    (s.put location (.file after)).LooksLike s := by
  have hfree : s.isDirectory location = false := by simp [isDirectory, hfound]
  -- a path either leads to the file, or finds what it found
  have hsees (path : SystemText) :
      (s.put location (.file after)).find? path = s.find? path ∨
        (s.put location (.file after)).find? path = some (.file after) ∧
          s.find? path = some (.file before) := by
    rw [find?_put_file hfree]
    by_cases hpath : s.locate path = some location
    · rw [if_pos hpath]
      refine .inr ⟨rfl, ?_⟩
      unfold find?
      rw [hpath]
      exact hfound
    · rw [if_neg hpath]
      exact .inl rfl
  constructor
  · intro path
    show ((s.put location (.file after)).find? path).isSome = (s.find? path).isSome
    rcases hsees path with hsame | ⟨hafter, hbefore⟩
    · rw [hsame]
    · rw [hafter, hbefore]
      rfl
  · intro path
    unfold FileStore.hasContent
    rcases hsees path with hsame | ⟨hafter, hbefore⟩
    · rw [hsame]
    · rw [hafter, hbefore]
      simp [hempty]

end FileStore

/-! ## Worlds with other files -/

/-- Worlds that differ in their files only, which are given. -/
def OtherFiles (files files' : FileStore) (w w' : World) : Prop :=
  w.files = files ∧ w' = { w with files := files' }

variable {files files' : FileStore}

/-- Whatever the files are, sources are built alike. -/
theorem OtherFiles.buildsAlike : BuildsAlike Eq (OtherFiles files files') where
  next := by
    rintro w _ ⟨-, rfl⟩
    rfl
  advance := by
    rintro w _ ⟨hfiles, rfl⟩
    exact ⟨hfiles, rfl⟩
  setPayload := by
    rintro w _ ⟨hfiles, rfl⟩ i _ rfl data data' hdata
    obtain rfl := Value.eq_of_matches_eq data hdata
    exact ⟨hfiles, rfl⟩

/-- Whatever look-alike files hold, sources are judged alike. -/
theorem OtherFiles.judgesAlike (alike : files'.LooksLike files) :
    JudgesAlike Eq (OtherFiles files files') where
  payload := by
    rintro w _ ⟨-, rfl⟩ i _ rfl
    exact Value.matches_self _ fun _ _ => rfl
  isPresent := by
    rintro w _ ⟨rfl, rfl⟩ path
    exact (alike.isPresent path).symm
  hasContent := by
    rintro w _ ⟨rfl, rfl⟩ path
    exact (alike.hasContent path).symm

/-- A computation that does the same with other files has the same outcome with them, and changes
neither. -/
theorem Couples.run_otherFiles {ε α : Type} {x : ExceptT ε (StateM World) α} {w : World}
    (h : Couples (OtherFiles w.files files') Eq x x) :
    x.run.run { w with files := files' } =
        ((x.run.run w).1, { (x.run.run w).2 with files := files' }) ∧
      (x.run.run w).2.files = w.files := by
  obtain ⟨houtcome, hfiles, hleft⟩ := h w { w with files := files' } ⟨rfl, rfl⟩
  refine ⟨Prod.ext ?_ hleft, hfiles⟩
  generalize (x.run.run w).1 = outcome at houtcome ⊢
  generalize (x.run.run { w with files := files' }).1 = outcome' at houtcome ⊢
  cases houtcome with
  | error e => rfl
  | ok hsame => exact congrArg Except.ok hsame.symm

/-! ## Sources and validations -/

namespace Catalog

/-- Building and validating never look at what files hold.  The source of a dataset is the same with
any files whatever.  Its validation is the same, report or error, with all files of which it is seen
alike, path by path, whether they are there and whether they have content.  Neither changes a file,
and the rest of the world is left the same. -/
theorem blind_to_contents (datasets : Dict DatasetEntry) (initialised : Dict Value) (name : String)
    (w : World) (files : FileStore) :
    let c := BuiltIn.catalog datasets initialised
    let built := (c.source name).run.run w
    let validated := (c.validate name).run.run w
    (c.source name).run.run { w with files } = (built.1, { built.2 with files }) ∧
    (files.LooksLike w.files →
      (c.validate name).run.run { w with files } = (validated.1, { validated.2 with files })) ∧
    built.2.files = w.files ∧ validated.2.files = w.files := by
  intro c built validated
  have hinitialised := Value.entriesMatch_self (R := Eq) initialised.entries fun _ _ => rfl
  have hsource : Couples (OtherFiles w.files files) Eq (c.source name) (c.source name) := by
    -- related sources are of one kind and, as identities stand for themselves, the same
    refine (couples_source OtherFiles.buildsAlike datasets hinitialised name).mono ?_
    intro s s' hmatch
    exact (Value.source.inj (Value.eq_of_matches_eq (.source s) hmatch)).symm
  have hvalidate (alike : files.LooksLike w.files) :
      Couples (OtherFiles w.files files) Eq (c.validate name) (c.validate name) :=
    couples_validate OtherFiles.buildsAlike datasets hinitialised
      (OtherFiles.judgesAlike alike) name
  refine ⟨hsource.run_otherFiles.1, fun alike => (hvalidate alike).run_otherFiles.1,
    hsource.run_otherFiles.2, ?_⟩
  exact (growing_validate datasets initialised name w).files

/-- A world with a letter in a file. -/
def desk : World :=
  ⟨(FileStore.workingIn []).addFile ["letter.txt"] (.text "Dear all"), Dict.empty, .empty⟩

/-- The letter as a dataset that must not be empty. -/
def letters : Dict DatasetEntry :=
  Dict.ofList [("letter", ⟨⟨"talog.sources.File", [("path", .string "letter.txt")]⟩,
    [⟨"talog.validators.not_empty", []⟩]⟩)]

/-- Another letter in the place of the letter passes the same validation. -/
theorem blind_to_contents_letter :
    let rewritten := desk.files.put ["letter.txt"] (.file (.text "Dear nobody"))
    rewritten.LooksLike desk.files ∧
    rewritten.readText "letter.txt" ≠ desk.files.readText "letter.txt" ∧
    (((BuiltIn.catalog letters Dict.empty).validate "letter").run.run
        { desk with files := rewritten }).1 =
      .ok ⟨"letter", [⟨0, "talog.validators.not_empty", .pass⟩]⟩ := by
  intro rewritten
  have hletter : desk.files.node? ["letter.txt"] = some (.file (.text "Dear all")) := rfl
  have alike : rewritten.LooksLike desk.files := .put_file hletter rfl
  obtain ⟨-, hvalidate, -⟩ := blind_to_contents letters Dict.empty "letter" desk rewritten
  refine ⟨alike, by decide, ?_⟩
  rw [hvalidate alike]
  rfl

end Catalog

end DataCatalog
