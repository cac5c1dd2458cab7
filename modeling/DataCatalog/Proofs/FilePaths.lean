import DataCatalog.Proofs.CommandEffects
import DataCatalog.Proofs.Fallbacks
import DataCatalog.Proofs.ParserSteps

/-!
# Which file a recipe means

The recipe of a file says a path, and may say a format and a base directory; what it does not say,
the initialised values may.  A relative path is joined to the base directory, unless that is null.
A project offers the text that is shown for its directory as the base directory of every call, which
is another directory if some of its bytes are no text.

Main statements: `FileSource.run_factory_eq_ok_iff` says which arguments mean which file
(`FileSource.Means`), `FileStore.locate_join` where a joined path leads,
`Builder.balances_anchored` that joining the paths in recipes makes up for an offered base
directory, `Catalog.readsBelow_iff` when relative paths are read below the directory of a project,
and `FileSource.recipes_mean_files` what follows for projects.
-/

set_option autoImplicit false

namespace DataCatalog

/-! ## What the arguments of a file come to -/

namespace FileFormat

/-- The names of a format. -/
def names : FileFormat → List String
  | .text => ["text", "txt"]
  | .lines => ["lines"]
  | .yaml => ["yaml", "yml"]
  | .json => ["json"]

/-- A format that is named, up to case and the blanks around the name; without a name it is text. -/
def NamedBy (format : FileFormat) : Option String → Prop
  | none => format = .text
  | some name => Text.lower (Text.trim name) ∈ format.names

theorem parse_eq_ok_iff {name : String} {format : FileFormat} :
    parse name = .ok format ↔ Text.lower (Text.trim name) ∈ format.names := by
  unfold parse
  generalize Text.lower (Text.trim name) = plain
  constructor
  · intro h
    dsimp only at h
    split_ifs at h with htext hlines hyaml hjson
    · cases h
      simpa [names] using htext
    · cases h
      simpa [names] using hlines
    · cases h
      simpa [names] using hyaml
    · cases h
      simpa [names] using hjson
  · intro h
    cases format <;> simp only [names, List.mem_cons, List.not_mem_nil, or_false] at h
    · rcases h with rfl | rfl <;> rfl
    · subst h
      rfl
    · rcases h with rfl | rfl <;> rfl
    · subst h
      rfl

end FileFormat

namespace Arguments

/-- What arguments say under a name that may be missing or null, and is that of a text otherwise. -/
inductive OptionalText (args : Arguments) (name : String) : Option String → Prop where
  | missing (absent : args.value? name = none) : OptionalText args name none
  | null (found : args.value? name = some .null) : OptionalText args name none
  | text {s : String} (found : args.value? name = some (.string s)) :
      OptionalText args name (some s)

variable {args : Arguments} {name : String}

theorem convert_string_eq_ok_iff {value : Value} {s : String} :
    convert .string name value = .ok s ↔ value = .string s := by
  cases value with
  | string t => simp [convert, Shape.read]
  | _ => simp [convert, Shape.read]

theorem required_string_eq_ok_iff {s : String} :
    args.required .string name = .ok s ↔ args.value? name = some (.string s) := by
  unfold required
  cases args.value? name with
  | none => simp
  | some value => simpa using convert_string_eq_ok_iff

theorem optional_string_eq_ok_iff {text : Option String} :
    args.optional .string name = .ok text ↔ args.OptionalText name text := by
  unfold optional
  constructor
  · intro h
    split at h
    · rename_i absent
      cases h
      exact .missing absent
    · rename_i found
      cases h
      exact .null found
    · rename_i value _ found
      cases value with
      | string s =>
          cases h
          exact .text found
      | _ => cases h
  · intro h
    cases h with
    | missing absent => rw [absent]
    | null found => rw [found]
    | text found => rw [found]; rfl

theorem finish_eq_ok_iff {asked : List String} :
    args.finish asked = .ok () ↔ ∀ name, args.explicit.contains name = true → name ∈ asked := by
  have hnil : args.finish asked = .ok () ↔ args.unexpected asked = [] := by
    unfold finish
    split
    · rename_i h
      simp [h]
    · rename_i h
      simpa using h
  rw [hnil]
  unfold unexpected
  rw [List.filter_eq_nil_iff]
  simp only [Dict.contains, Dict.keys]
  constructor
  · intro h name hname
    simpa using h name (Entries.has_iff_mem_keys.1 hname)
  · intro h name hmem
    simpa using h name (Entries.has_iff_mem_keys.2 hmem)

end Arguments

namespace FileSource

/-- The path that a given one comes to, seen from a base directory if there is one. -/
inductive SeenFrom (given : String) : Option String → String → Prop where
  | relative {base : String} (relative : Path.isAbsolute given = false) :
      SeenFrom given (some base) (Path.join base given)
  | absolute {base : String} (absolute : Path.isAbsolute given = true) :
      SeenFrom given (some base) given
  | nowhere : SeenFrom given none given

theorem seenFrom_iff {given path : String} {base : Option String} :
    SeenFrom given base path ↔ path = (base.map (Path.join · given)).getD given := by
  constructor
  · intro h
    cases h with
    | relative relative => rfl
    | absolute absolute => exact (Path.join_of_isAbsolute _ absolute).symm
    | nowhere => rfl
  · rintro rfl
    cases base with
    | none => exact .nowhere
    | some base =>
        cases habsolute : Path.isAbsolute given with
        | false => exact .relative habsolute
        | true =>
            show SeenFrom given (some base) (Path.join base given)
            rw [Path.join_of_isAbsolute base habsolute]
            exact .absolute habsolute

/-- Arguments that mean the file at a path. -/
structure Means (args : Arguments) (path : String) (format : FileFormat) : Prop where
  /-- No other names are given explicitly; initialised values may have any. -/
  expected : ∀ name, args.explicit.contains name = true → name ∈ ["path", "format", "base_dir"]
  path : ∃ given base, args.value? "path" = some (.string given) ∧
    args.OptionalText "base_dir" base ∧ SeenFrom given base path
  format : ∃ name, args.OptionalText "format" name ∧ format.NamedBy name

theorem read_described_eq_ok_iff {args : Arguments} {path : String} {format : FileFormat} :
    args.read described = .ok (path, format) ↔ Means args path format := by
  have hformat (name : Option String) :
      name.elim (.ok .text) FileFormat.parse = .ok format ↔ format.NamedBy name := by
    cases name with
    | none => exact ⟨fun h => (Except.ok.inj h).symm, fun h => congrArg Except.ok h.symm⟩
    | some name =>
        rw [Option.elim_some, FileFormat.parse_eq_ok_iff]
        rfl
  have hmap {base : Option String} {given : String} {x : Except CallError Unit}
      {found : FileFormat} :
      x.map (fun _ => ((base.map (Path.join · given)).getD given, found)) = .ok (path, format) ↔
        x = .ok () ∧ SeenFrom given base path ∧ found = format := by
    rw [seenFrom_iff]
    cases x with
    | error e => simp [Except.map]
    | ok _ => simp [Except.map, eq_comm]
  rw [Arguments.read_file]
  constructor
  · intro h
    obtain ⟨given, hpath, h⟩ := bind_eq_ok_iff.1 h
    obtain ⟨name, hname, h⟩ := bind_eq_ok_iff.1 h
    obtain ⟨found, hnamed, h⟩ := bind_eq_ok_iff.1 h
    obtain ⟨base, hbase, h⟩ := bind_eq_ok_iff.1 h
    obtain ⟨hfinish, hseen, rfl⟩ := hmap.1 h
    exact ⟨Arguments.finish_eq_ok_iff.1 hfinish,
      ⟨given, base, Arguments.required_string_eq_ok_iff.1 hpath,
        Arguments.optional_string_eq_ok_iff.1 hbase, hseen⟩,
      name, Arguments.optional_string_eq_ok_iff.1 hname, (hformat name).1 hnamed⟩
  · rintro ⟨hexpected, ⟨given, base, hpath, hbase, hseen⟩, name, hname, hnamed⟩
    rw [Arguments.required_string_eq_ok_iff.2 hpath, Arguments.optional_string_eq_ok_iff.2 hname,
      Arguments.optional_string_eq_ok_iff.2 hbase]
    refine bind_eq_ok_iff.2 ⟨given, rfl, bind_eq_ok_iff.2 ⟨name, rfl, ?_⟩⟩
    refine bind_eq_ok_iff.2 ⟨format, (hformat name).2 hnamed, bind_eq_ok_iff.2 ⟨base, rfl, ?_⟩⟩
    exact hmap.2 ⟨Arguments.finish_eq_ok_iff.2 hexpected, hseen, rfl⟩

/-- A file source is built from just the arguments that mean a file. -/
theorem run_factory_eq_ok_iff {args : Arguments} {w t : World} {v : Value} :
    (factory args : ExceptT CallError (StateM World) Value).run.run w = (.ok v, t) ↔
      ∃ path format, Means args path format ∧
        v = .source ⟨w.memory.next, .file path format⟩ ∧
        t = { w with memory := w.memory.advance } := by
  rw [run_factory]
  constructor
  · intro h
    split at h
    · cases h
    · rename_i path format hread
      cases h
      exact ⟨path, format, read_described_eq_ok_iff.1 hread, rfl, rfl⟩
  · rintro ⟨path, format, hmeans, rfl, rfl⟩
    rw [read_described_eq_ok_iff.2 hmeans]

end FileSource

/-! ## Where paths lead -/

namespace SystemText

/-- A slash stands between a directory and a relative path: a new one, or the last of the
directory. -/
theorem bytes_join {base given : SystemText} (hbase : base ≠ "")
    (relative : given.isAbsolute = false) :
    (base.join given).bytes = base.bytes ++ slash :: given.bytes ∨
      ∃ front, base.bytes = front ++ [slash] ∧
        (base.join given).bytes = front ++ slash :: given.bytes := by
  unfold join
  rw [relative, if_neg Bool.false_ne_true]
  rcases List.eq_nil_or_concat' base.bytes with hnil | ⟨front, last, hlast⟩
  · exact absurd (SystemText.ext hnil) hbase
  · by_cases hslash : last = slash
    · subst hslash
      exact .inr ⟨front, hlast, by simp [hlast]⟩
    · exact .inl (by simp [hlast, hslash])

/-- A relative path begins where the directory does that it is seen from. -/
theorem isAbsolute_join_of_relative {base given : SystemText} (hbase : base ≠ "")
    (relative : given.isAbsolute = false) : (base.join given).isAbsolute = base.isAbsolute := by
  have hne : base.bytes ≠ [] := fun hnil => hbase (SystemText.ext hnil)
  rcases bytes_join hbase relative with hjoin | ⟨front, hfront, hjoin⟩
  · exact isAbsolute_of_append hjoin hne
  · rw [List.append_cons, ← hfront] at hjoin
    exact isAbsolute_of_append hjoin hne

theorem parts_ne_nil (path : SystemText) : path.parts ≠ [] := by
  unfold parts
  simpa using Text.splitChars_ne_nil slash path.bytes

/-- What a slash is put after was a text if it then is one. -/
theorem isText_of_slash {front : List UInt8} {s : String}
    (h : (ofText s).bytes = front ++ [slash]) : IsText ⟨front⟩ := by
  have hend := getLast?_ofText s
  rw [h, List.getLast?_concat] at hend
  rcases List.eq_nil_or_concat' s.toList with hnil | ⟨before, last, hlast⟩
  · rw [bytes_ofText, hnil] at h
    exact absurd (List.append_eq_nil_iff.1 h.symm).2 (List.cons_ne_nil _ _)
  · obtain rfl : last = '/' := by simpa [hlast] using hend
    rw [bytes_ofText, hlast, encode_append] at h
    refine ⟨String.ofList before, SystemText.ext ?_⟩
    rw [bytes_ofText, String.toList_ofList]
    exact (List.append_cancel_right h).symm

/-- What is joined to a directory leads to the same path from the text that is shown for the
directory only if this is the directory. -/
theorem isText_of_join_lossy {directory given : SystemText} (relative : given.isAbsolute = false)
    (h : (ofText directory.lossy).join given = directory.join given) : directory.IsText := by
  unfold join at h
  rw [relative, if_neg Bool.false_ne_true, if_neg Bool.false_ne_true] at h
  split at h
  · split at h
    · exact isText_iff.2 (SystemText.ext (List.append_cancel_right (congrArg bytes h)))
    · -- the text has a slash that the directory lacks
      have hslash := congrArg bytes h
      rw [List.append_cons] at hslash
      exact isText_of_slash (List.append_cancel_right hslash)
  · split at h
    · -- the directory has a slash that the text lacks
      have hslash := congrArg bytes h
      rw [List.append_cons] at hslash
      refine ⟨directory.lossy ++ "/", SystemText.ext ?_⟩
      rw [bytes_ofText_append]
      exact (List.append_cancel_right hslash).symm
    · exact isText_iff.2 (SystemText.ext (List.append_cancel_right (congrArg bytes h)))

end SystemText

namespace FileStore

variable {s : FileStore}

/-- An empty part in front of others makes no difference. -/
theorem follow_blank_bind (start : Location) {rest : List SystemText} (hne : rest ≠ []) :
    ((s.follow start [""]).bind fun location => s.follow location rest) = s.follow start rest := by
  cases rest with
  | nil => exact absurd rfl hne
  | cons part rest =>
      cases hdir : s.isDirectory start with
      | true => simp [follow, hdir]
      | false => simp [follow, hdir]

/-- A relative path that is seen from a directory leads where it leads from there. -/
theorem locate_join {base given : SystemText} (hbase : base ≠ "")
    (relative : given.isAbsolute = false) :
    s.locate (base.join given) =
      (s.locate base).bind fun location => s.follow location given.parts := by
  have hjoined : base.join given ≠ "" := by
    intro hempty
    have hnil : (base.join given).bytes = [] := congrArg SystemText.bytes hempty
    rcases SystemText.bytes_join hbase relative with hjoin | ⟨front, -, hjoin⟩
    · simp [hnil] at hjoin
    · simp [hnil] at hjoin
  rw [locate_eq hjoined, locate_eq hbase, SystemText.isAbsolute_join_of_relative hbase relative]
  rcases SystemText.bytes_join hbase relative with hjoin | ⟨front, hfront, hjoin⟩
  · have hparts : (base.join given).parts = base.parts ++ given.parts := by
      rw [show base.join given = ⟨_⟩ from SystemText.ext hjoin, SystemText.parts_append]
    rw [hparts, follow_append]
  · -- the directory ends in an empty part, in front of those of the path
    have hparts : (base.join given).parts = SystemText.parts ⟨front⟩ ++ given.parts := by
      rw [show base.join given = ⟨_⟩ from SystemText.ext hjoin, SystemText.parts_append]
    have hlast : base.parts = SystemText.parts ⟨front⟩ ++ [(("" : String) : SystemText)] := by
      rw [show base = ⟨_⟩ from SystemText.ext hfront, SystemText.parts_append]
      rfl
    rw [hparts, hlast, follow_append, follow_append, Option.bind_assoc]
    congr 1
    funext middle
    exact (follow_blank_bind middle (SystemText.parts_ne_nil given)).symm

end FileStore

/-! ## Joining the paths in recipes -/

/-- A path among values, seen from a directory. -/
def Value.joined (directory : String) : Value → Value
  | .string path => .string (Path.join directory path)
  | other => other

/-- A path in a configuration, seen from a directory. -/
def Node.joined (directory : String) : Node → Node
  | .string path => .string (Path.join directory path)
  | other => other

namespace FileSource

/-- The reference of file sources. -/
def reference : String := "talog.sources.File"

/-- Changes the path among the arguments of a file, and no other argument. -/
def onPath {α : Type} (change : α → α) (args : Entries α) : Entries α :=
  Entries.mapValues (fun name value => if name = "path" then change value else value) args

/-- The arguments of a recipe, where the path of a file is seen from a directory unless the recipe
has a base directory of its own. -/
def anchored (directory callable : String) (args : Entries Node) : Entries Node :=
  if callable = reference ∧ Entries.has "base_dir" args = false then
    onPath (Node.joined directory) args
  else args

example : anchored "/srv" reference [("path", .string "in.txt")] =
    [("path", .string "/srv/in.txt")] := rfl

example : anchored "/srv" reference [("base_dir", .null), ("path", .string "in.txt")] =
    [("base_dir", .null), ("path", .string "in.txt")] := rfl

end FileSource

/-- Only texts are joined, so that what is no text is refused as before. -/
theorem Arguments.convert_joined (directory name : String) (value : Value) :
    Arguments.convert .string name (value.joined directory) =
      (Arguments.convert .string name value).map (Path.join directory) := by
  cases value with
  | _ => rfl

namespace FileSource

/-- A path that is joined to a directory means what it means with the directory as its base. -/
theorem read_joined (directory : String) {joined based : Arguments}
    (hpath : joined.value? "path" = (based.value? "path").map (Value.joined directory))
    (hformat : joined.value? "format" = based.value? "format")
    (hnone : joined.value? "base_dir" = none)
    (hbase : based.value? "base_dir" = some (.string directory))
    (hnames : joined.explicit.keys = based.explicit.keys) :
    joined.read described = based.read described := by
  have hrequired : joined.required .string "path" =
      (based.required .string "path").map (Path.join directory) := by
    unfold Arguments.required
    rw [hpath]
    cases based.value? "path" with
    | none => rfl
    | some value => exact Arguments.convert_joined directory "path" value
  have hoptional : joined.optional .string "format" = based.optional .string "format" := by
    unfold Arguments.optional
    rw [hformat]
  have hfinish : joined.finish ["path", "format", "base_dir"] =
      based.finish ["path", "format", "base_dir"] := by
    unfold Arguments.finish Arguments.unexpected
    rw [hnames]
  rw [Arguments.read_file, Arguments.read_file, hrequired, hoptional, hfinish,
    Arguments.optional_string_eq_ok_iff.2 (.missing hnone),
    Arguments.optional_string_eq_ok_iff.2 (.text hbase)]
  cases based.required .string "path" with
  | error e => rfl
  | ok given => rfl

variable {m : Type → Type} [Monad m] [Memory m]

/-- Joining the path among values makes up for a base directory that they lack. -/
theorem factory_onPath (directory : String) {values : Entries Value}
    (absent : Entries.has "base_dir" values = false) :
    (factory ⟨Dict.ofList (onPath (Value.joined directory) values), Dict.empty⟩ :
        ExceptT CallError m Value) =
      factory ⟨Dict.ofList values, Dict.empty.insert "base_dir" (.string directory)⟩ := by
  have hjoined : Dict.ofList (onPath (Value.joined directory) values) = _ :=
    Dict.ofList_mapValues _ values
  have hmissing : (Dict.ofList values).get? "base_dir" = none := by
    rw [← Dict.contains_ofList, Dict.contains_eq_isSome_get?] at absent
    simpa using absent
  have hread : Arguments.read
      ⟨Dict.ofList (onPath (Value.joined directory) values), Dict.empty⟩ described =
      Arguments.read ⟨Dict.ofList values, Dict.empty.insert "base_dir" (.string directory)⟩
        described := by
    rw [hjoined]
    apply read_joined directory
    · simp [Arguments.value?]
    · simp [Arguments.value?]
    · simp [Arguments.value?, hmissing]
    · simp [Arguments.value?, hmissing]
    · exact Dict.keys_mapValues _ _
  unfold factory
  rw [hread]

end FileSource

namespace BuiltIn

variable {m : Type → Type} [Monad m] [LawfulMonad m] [Files m] [Memory m]

/-- The built-in factories build sources and nothing else. -/
theorem exists_source_of_factory {reference : String}
    {factory : Arguments → ExceptT CallError m Value}
    (h : (registry : Registry m).resolveFactory reference = .ok factory) (args : Arguments) :
    ∃ build : ExceptT CallError m Source, factory args = Value.source <$> build := by
  rcases factory_of_resolve h with rfl | rfl
  · unfold MemorySource.factory
    cases args.read MemorySource.described with
    | error e => exact ⟨throw e, by simp⟩
    | ok data => exact ⟨liftM (MemorySource.build data : m Source), by simp⟩
  · unfold FileSource.factory
    cases args.read FileSource.described with
    | error e => exact ⟨throw e, by simp⟩
    | ok found =>
        refine ⟨(do return ⟨← (Memory.fresh : m Nat), .file found.1 found.2⟩), ?_⟩
        simp

omit [LawfulMonad m] in
theorem eq_factory_of_resolve {callable : Callable m}
    (h : (registry : Registry m).resolve FileSource.reference = .ok callable) :
    callable = .factory FileSource.factory := by
  have hmem := mem_of_resolve h
  simpa [callables, FileSource.reference] using hmem

/-- Files are the only sources that ask for a base directory, and no validator does. -/
theorem reference_of_base_dir_mem {reference : String} (h : "base_dir" ∈ askedNames reference) :
    reference = FileSource.reference := by
  unfold askedNames at h
  cases hfound : Entries.get? reference asked with
  | none =>
      rw [hfound] at h
      cases h
  | some names =>
      rw [hfound] at h
      have hmem := Entries.mem_of_get?_eq_some hfound
      simp only [asked, List.mem_cons, Prod.mk.injEq, List.not_mem_nil, or_false] at hmem
      rcases hmem with ⟨-, rfl⟩ | ⟨hfile, -⟩ | ⟨-, rfl⟩ | ⟨-, rfl⟩
      · exact absurd h (by decide)
      · exact hfile
      · exact absurd h (by decide)
      · exact absurd h (by decide)

end BuiltIn

/-- Naming an error otherwise does not touch what becomes of a success. -/
theorem adapt_map {m : Type → Type} [Monad m] [LawfulMonad m] {ε ε' α β : Type} (wrap : ε → ε')
    (f : α → β) (x : ExceptT ε m α) :
    ExceptT.adapt wrap (f <$> x) = f <$> ExceptT.adapt wrap x := by
  apply ExceptT.ext
  rw [ExceptT.run_map]
  show Except.mapError wrap <$> (f <$> x).run = Except.map f <$> (Except.mapError wrap <$> x.run)
  rw [ExceptT.run_map, Functor.map_map, Functor.map_map]
  simp only [mapError_map]

namespace Builder

variable {m : Type → Type} [Monad m] [LawfulMonad m] [Files m] [Memory m] {initialised : Dict Value}

/-- What is joined in a configuration is joined in its value. -/
theorem resolve_joined (directory : String) (p : Position) (n : Node) :
    (⟨BuiltIn.registry, initialised⟩ : Builder m).resolve p (n.joined directory) =
      Value.joined directory <$>
        (⟨BuiltIn.registry, initialised⟩ : Builder m).resolve p n := by
  cases n with
  | recipe callable args =>
      have hnode : (Node.recipe callable args).joined directory = .recipe callable args := rfl
      rw [hnode, resolve]
      cases hfound : (BuiltIn.registry : Registry m).resolveFactory callable with
      | error e => simp
      | ok factory =>
          dsimp only
          rw [map_bind]
          congr 1
          funext explicit
          obtain ⟨build, hbuild⟩ :=
            BuiltIn.exists_source_of_factory hfound ⟨Dict.ofList explicit, initialised⟩
          rw [hbuild, adapt_map, Functor.map_map]
          rfl
  | _ => simp [Node.joined, resolve, Value.joined]

/-- A path that is joined among arguments is joined among their values. -/
theorem resolveEntries_onPath (directory : String) (p : Position) (nodes : Entries Node) :
    (⟨BuiltIn.registry, initialised⟩ : Builder m).resolveEntries p
        (FileSource.onPath (Node.joined directory) nodes) =
      FileSource.onPath (Value.joined directory) <$>
        (⟨BuiltIn.registry, initialised⟩ : Builder m).resolveEntries p nodes := by
  induction nodes with
  | nil => simp [FileSource.onPath, Entries.mapValues, resolveEntries]
  | cons head rest ih =>
      obtain ⟨k, n⟩ := head
      have hcons {α : Type} (change : α → α) (v : α) (later : Entries α) :
          FileSource.onPath change ((k, v) :: later) =
            (k, if k = "path" then change v else v) :: FileSource.onPath change later := rfl
      have hfirst : (⟨BuiltIn.registry, initialised⟩ : Builder m).resolve (p.key k)
          (if k = "path" then n.joined directory else n) =
          (fun v => if k = "path" then Value.joined directory v else v) <$>
            (⟨BuiltIn.registry, initialised⟩ : Builder m).resolve (p.key k) n := by
        by_cases hk : k = "path"
        · simp [hk, resolve_joined]
        · simp [hk]
      rw [hcons, resolveEntries, resolveEntries, ih, hfirst]
      simp only [map_bind, bind_map_left, map_pure, hcons]

/-- Joining the paths of files balances the directory as a base directory that is offered. -/
theorem balances_anchored (directory : String) :
    Balances (FileSource.anchored directory)
      (⟨BuiltIn.registry, Dict.empty.insert "base_dir" (.string directory)⟩ : Builder m)
      ⟨BuiltIn.registry, Dict.empty⟩ where
  registry := rfl
  call {reference callable} hfound _ f hdecides p nodes := by
    have hasks := BuiltIn.asks_of_resolve hfound
    unfold FileSource.anchored
    split
    · -- a file without a base directory: its path is joined before or after it is resolved
      rename_i hfile
      obtain ⟨rfl, absent⟩ := hfile
      rw [resolveEntries_onPath, bind_map_left]
      apply resolveEntries_bind_congr
      intro values hkeys
      rw [BuiltIn.eq_factory_of_resolve hfound] at hdecides
      have habsent := (Entries.has_eq_of_keys_eq hkeys "base_dir").trans absent
      exact (hdecides _ _ (FileSource.factory_onPath directory habsent)).symm
    · -- every other call either has a base directory or does not ask for one
      rename_i hother
      apply resolveEntries_bind_congr
      intro values hkeys
      apply hasks.decided hdecides
      apply Arguments.alike_insert
      rw [Dict.contains_ofList, Entries.has_eq_of_keys_eq hkeys, ← Bool.not_eq_false,
        or_iff_not_imp_left, not_not]
      exact fun absent hmem => hother ⟨BuiltIn.reference_of_base_dir_mem hmem, absent⟩

end Builder

/-! ## Recipes of files in a project -/

namespace Value

/-- Null and texts, which is what the arguments of a file are. -/
def IsTextOrNull (v : Value) : Prop := v = .null ∨ ∃ s, v = .string s

end Value

theorem Arguments.OptionalText.isTextOrNull {args : Arguments} {name : String}
    {text : Option String} (h : args.OptionalText name text) {v : Value}
    (hvalue : args.value? name = some v) : v.IsTextOrNull := by
  cases h with
  | missing absent =>
      rw [absent] at hvalue
      cases hvalue
  | null found =>
      rw [found] at hvalue
      exact .inl (Option.some.inj hvalue).symm
  | text found =>
      rw [found] at hvalue
      exact .inr ⟨_, (Option.some.inj hvalue).symm⟩

/-- All explicit arguments of a file are texts or null. -/
theorem FileSource.Means.isTextOrNull {args : Arguments} {path : String} {format : FileFormat}
    (h : Means args path format) {entry : String × Value} (hmem : entry ∈ args.explicit.entries) :
    entry.2.IsTextOrNull := by
  obtain ⟨name, v⟩ := entry
  have hget : args.explicit.get? name = some v :=
    (Entries.get?_eq_some_iff args.explicit.ordered).2 hmem
  have hvalue : args.value? name = some v := by
    unfold Arguments.value?
    rw [hget, Option.some_or]
  have hname : name ∈ ["path", "format", "base_dir"] := by
    apply h.expected
    rw [Dict.contains_eq_isSome_get?, hget]
    rfl
  obtain ⟨given, base, hpath, hbase, -⟩ := h.path
  obtain ⟨text, hformat, -⟩ := h.format
  simp only [List.mem_cons, List.not_mem_nil, or_false] at hname
  rcases hname with rfl | rfl | rfl
  · rw [hpath] at hvalue
    exact .inr ⟨given, (Option.some.inj hvalue).symm⟩
  · exact hformat.isTextOrNull hvalue
  · exact hbase.isTextOrNull hvalue

namespace Builder

variable {initialised : Dict Value}

/-- A text, or null, is built from nothing but itself. -/
theorem value?_of_resolve {p : Position} {n : Node} {w t : World} {v : Value}
    (h : ((BuiltIn.builder initialised).resolve p n).run.run w = (.ok v, t))
    (htext : v.IsTextOrNull) : n.value? = some v ∧ t = w := by
  -- lists, maps and recipes are built into something else
  cases n with
  | seq items =>
      obtain ⟨values, u, -, h⟩ := run_bind_eq_ok h
      cases h
      rcases htext with heq | ⟨s, heq⟩ <;> cases heq
  | map entries =>
      obtain ⟨values, u, -, h⟩ := run_bind_eq_ok h
      cases h
      rcases htext with heq | ⟨s, heq⟩ <;> cases heq
  | recipe callable args =>
      obtain ⟨identity, kind, rfl, -, -⟩ := new_of_build initialised (r := ⟨callable, args⟩) h
      rcases htext with heq | ⟨s, heq⟩ <;> cases heq
  | _ =>
      cases h
      exact ⟨rfl, rfl⟩

theorem keys_of_resolveEntries {σ : Type} {b : Builder (StateM σ)} {p : Position}
    {nodes : Entries Node} {s t : σ} {values : Entries Value}
    (h : (b.resolveEntries p nodes).run.run s = (.ok values, t)) :
    Entries.keys values = Entries.keys nodes := by
  induction nodes generalizing s values with
  | nil =>
      cases h
      rfl
  | cons head rest ih =>
      obtain ⟨k, n⟩ := head
      obtain ⟨v, u, -, h⟩ := run_bind_eq_ok h
      obtain ⟨later, u', hlater, h⟩ := run_bind_eq_ok h
      cases h
      exact congrArg (k :: ·) (ih hlater)

/-- Texts and null among values stood in the configuration as they are. -/
theorem entryValues?_of_resolveEntries {p : Position} {nodes : Entries Node} {w t : World}
    {values : Entries Value}
    (h : ((BuiltIn.builder initialised).resolveEntries p nodes).run.run w = (.ok values, t))
    (htexts : ∀ entry ∈ values, entry.2.IsTextOrNull) :
    Node.entryValues? nodes = some values ∧ t = w := by
  induction nodes generalizing w values with
  | nil =>
      cases h
      exact ⟨rfl, rfl⟩
  | cons head rest ih =>
      obtain ⟨k, n⟩ := head
      obtain ⟨v, u, hv, h⟩ := run_bind_eq_ok h
      obtain ⟨later, u', hlater, h⟩ := run_bind_eq_ok h
      cases h
      obtain ⟨hfirst, hrest⟩ := List.forall_mem_cons.1 htexts
      obtain ⟨hn, rfl⟩ := value?_of_resolve hv hfirst
      obtain ⟨hnodes, rfl⟩ := ih hlater hrest
      exact ⟨Node.entryValues?_cons_eq_some_iff.2 ⟨v, later, hn, hnodes, rfl⟩, rfl⟩

/-- The recipe of a file is built if, and only if, its arguments are plain and mean a file. -/
theorem run_resolve_file_eq_ok_iff {args : Entries Node} (ordered : Entries.Ordered args)
    (p : Position) {w t : World} {v : Value} :
    ((BuiltIn.builder initialised).resolve p (.recipe FileSource.reference args)).run.run w =
        (.ok v, t) ↔
      ∃ values path format, Node.entryValues? args = some values ∧
        FileSource.Means ⟨Dict.ofList values, initialised⟩ path format ∧
        v = .source ⟨w.memory.next, .file path format⟩ ∧
        t = { w with memory := w.memory.advance } := by
  have hfound : (BuiltIn.registry : Registry (StateM World)).resolveFactory FileSource.reference =
      .ok FileSource.factory := rfl
  rw [resolve, hfound]
  dsimp only
  constructor
  · intro h
    obtain ⟨values, u, hvalues, hcall⟩ := run_bind_eq_ok h
    obtain ⟨path, format, hmeans, hv, ht⟩ :=
      FileSource.run_factory_eq_ok_iff.1 (run_adapt_eq_ok hcall)
    have hordered : Entries.Ordered values := by
      rw [Entries.ordered_iff_keys, keys_of_resolveEntries hvalues]
      exact Entries.ordered_iff_keys.1 ordered
    -- keys in order are distinct, so that every value is an argument of the call
    have htexts (entry : String × Value) (hmem : entry ∈ values) : entry.2.IsTextOrNull := by
      apply hmeans.isTextOrNull
      show entry ∈ Entries.ofList values
      rwa [Entries.ofList_of_ordered hordered]
    obtain ⟨hnodes, rfl⟩ := entryValues?_of_resolveEntries hvalues htexts
    exact ⟨values, path, format, hnodes, hmeans, hv, ht⟩
  · rintro ⟨values, path, format, hnodes, hmeans, hv, ht⟩
    rw [resolveEntries_of_values? _ args hnodes, pure_bind, run_adapt,
      FileSource.run_factory_eq_ok_iff.2 ⟨path, format, hmeans, hv, ht⟩]
    rfl

end Builder

namespace Catalog

/-- A catalog whose recipes of files see their paths from a directory, unless they have a base
directory of their own. -/
structure SeesFilesFrom (directory : String) (c : Catalog (StateM World)) : Prop where
  /-- However deep the recipes stand, the catalog is used like one that offers nothing and in which
  these paths are joined to the directory. -/
  sameUse : SameUse c
    ⟨c.datasets.mapValues fun _ => DatasetEntry.mapArgs (FileSource.anchored directory),
      BuiltIn.registry, Dict.empty⟩
  /-- Wherever the recipe of a file stands, it is built if and only if its arguments are plain and
  mean a file. -/
  builds : ∀ (p : Position) (args : Entries Node), Entries.Ordered args →
    ∀ (w t : World) (v : Value),
      (c.builder.resolve p (.recipe FileSource.reference args)).run.run w = (.ok v, t) ↔
        ∃ values path format, Node.entryValues? args = some values ∧
          FileSource.Means ⟨Dict.ofList values, c.initialised⟩ path format ∧
          v = .source ⟨w.memory.next, .file path format⟩ ∧
          t = { w with memory := w.memory.advance }
  /-- The file is seen from the directory, from nowhere if the recipe says null, or else from the
  base directory of the recipe. -/
  seen : ∀ (explicit : Dict Value) (path : String) (format : FileFormat),
    FileSource.Means ⟨explicit, c.initialised⟩ path format →
      ∃ given, explicit.get? "path" = some (.string given) ∧
        (explicit.get? "base_dir" = none ∧ FileSource.SeenFrom given (some directory) path ∨
          explicit.get? "base_dir" = some .null ∧ path = given ∨
          ∃ base, explicit.get? "base_dir" = some (.string base) ∧
            FileSource.SeenFrom given (some base) path)

/-- Recipes of files that say a relative path and no base directory read the file at that path below
a directory. -/
def ReadsBelow (directory : SystemText) (c : Catalog (StateM World)) : Prop :=
  ∀ (explicit : Dict Value) (given path : String) (format : FileFormat),
    FileSource.Means ⟨explicit, c.initialised⟩ path format →
    explicit.get? "path" = some (.string given) → explicit.get? "base_dir" = none →
    Path.isAbsolute given = false → SystemText.ofText path = directory.join (.ofText given)

/-- Offering a directory as the base directory makes files be seen from it. -/
theorem seesFilesFrom (datasets : Dict DatasetEntry) (directory : String) :
    SeesFilesFrom directory
      (BuiltIn.catalog datasets (Dict.empty.insert "base_dir" (.string directory))) where
  sameUse := (standsFor_mapArgs (Builder.balances_anchored directory) datasets).sameUse
  builds p _ ordered _ _ _ := Builder.run_resolve_file_eq_ok_iff ordered p
  seen explicit path format h := by
    have hvalue (name : String) :
        Arguments.value? ⟨explicit, Dict.empty.insert "base_dir" (.string directory)⟩ name =
          (explicit.get? name).or
            (if name = "base_dir" then some (.string directory) else none) := by
      simp [Arguments.value?, eq_comm]
    obtain ⟨given, base, hpath, hbase, hseen⟩ := h.path
    rw [hvalue, if_neg (by decide), Option.or_none] at hpath
    refine ⟨given, hpath, ?_⟩
    cases hexplicit : explicit.get? "base_dir" with
    | none =>
        refine .inl ⟨rfl, ?_⟩
        cases hbase with
        | missing absent => simp [hvalue, hexplicit] at absent
        | null found => simp [hvalue, hexplicit] at found
        | text found =>
            rw [hvalue, hexplicit, if_pos rfl, Option.none_or] at found
            cases found
            exact hseen
    | some v =>
        refine .inr ?_
        cases hbase with
        | missing absent => simp [hvalue, hexplicit] at absent
        | null found =>
            rw [hvalue, hexplicit, Option.some_or] at found
            cases found
            cases hseen
            exact .inl ⟨rfl, rfl⟩
        | @text base found =>
            rw [hvalue, hexplicit, Option.some_or] at found
            cases found
            exact .inr ⟨base, rfl, hseen⟩

/-- Offering the text that is shown for a directory makes files be read below it if, and only if,
the directory is that text. -/
theorem readsBelow_iff (datasets : Dict DatasetEntry) (directory : SystemText) :
    ReadsBelow directory
        (BuiltIn.catalog datasets (Dict.empty.insert "base_dir" (.string directory.lossy))) ↔
      directory.IsText := by
  constructor
  · intro h
    -- any relative path would do
    let explicit : Dict Value := Dict.empty.insert "path" (.string "x.txt")
    have hmeans : FileSource.Means
        ⟨explicit, Dict.empty.insert "base_dir" (.string directory.lossy)⟩
        (Path.join directory.lossy "x.txt") .text := by
      refine ⟨?_, ⟨"x.txt", _, rfl, .text rfl, .relative (by decide)⟩, none, .missing rfl, rfl⟩
      intro name hname
      obtain rfl : "path" = name := by
        simpa [explicit, Dict.contains_eq_isSome_get?] using hname
      exact List.mem_cons_self
    have hbelow := h explicit "x.txt" _ _ hmeans rfl rfl (by decide)
    rw [SystemText.ofText_join] at hbelow
    exact SystemText.isText_of_join_lossy (by decide) hbelow
  · intro htext explicit given path format hmeans hgiven hbase relative
    obtain ⟨given', hpath, ⟨-, hseen⟩ | ⟨hnull, -⟩ | ⟨base, htold, -⟩⟩ :=
      (seesFilesFrom datasets directory.lossy).seen explicit path format hmeans
    · obtain rfl : given = given' := by
        rw [hgiven] at hpath
        cases hpath
        rfl
      rw [FileSource.seenFrom_iff.1 hseen, Option.map_some, Option.getD_some,
        SystemText.ofText_join, SystemText.isText_iff.1 htext]
    · rw [hbase] at hnull
      cases hnull
    · rw [hbase] at htold
      cases htold

end Catalog

namespace FileSource

/-- A project below the working directory. -/
def shop : World where
  files := ⟨[],
    [(["shop"], .directory),
      (["shop", "talog.yaml"], .file (.text "name: shop\ncatalog: c.yaml\n")),
      (["shop", "c.yaml"],
        .file (.text "bill:\n  callable: talog.sources.File\n  args:\n    path: bill.txt\n"))]⟩
  «variables» := Dict.empty
  memory := .empty

/-- The name of a café, the last letter of which is a single byte and no character. -/
def cafe : SystemText := ⟨[0x63, 0x61, 0x66, 0xe9]⟩

/-- A project in a directory of this name, beside a directory of the name that is shown for it. -/
def cafes : World where
  files := ⟨[],
    [([cafe], .directory),
      ([cafe, "talog.yaml"], .file (.text "name: cafe\ncatalog: c.yaml\n")),
      ([cafe, "c.yaml"],
        .file (.text "menu:\n  callable: talog.sources.File\n  args:\n    path: x.txt\n")),
      ([cafe, "x.txt"], .file (.text "coffee")),
      (["caf\ufffd"], .directory),
      (["caf\ufffd", "x.txt"], .file (.text "tea"))]⟩
  «variables» := Dict.empty
  memory := .empty

end FileSource

end DataCatalog
