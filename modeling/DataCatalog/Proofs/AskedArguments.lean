import DataCatalog.BuiltIn.Registry
import DataCatalog.Proofs.EntryLists

/-!
# What the built-in callables ask for

A callable asks for names one after the other and then refuses what is left.  As long as no name is
asked for twice, each finds what the arguments hold at the start (`Arguments.value?`), and what is
left are the explicit names that nobody asked for (`Arguments.unexpected`).

Main statements: `read_payload`, `read_bound`, `read_file` and `read_nothing` say in these terms
what each built-in callable makes of its arguments, and `BuiltIn.factory_of_resolve` and
`BuiltIn.validator_of_resolve` which callables these are.
-/

set_option autoImplicit false

namespace DataCatalog

namespace Dict

variable {α : Type}

/-- A key that is not there need not be erased. -/
theorem erase_of_get?_eq_none {d : Dict α} {key : String} (h : d.get? key = none) :
    d.erase key = d := by
  apply Dict.ext
  apply List.filter_eq_self.2
  intro entry hmem
  have hne : entry.1 ≠ key := by
    rintro rfl
    have hfound := (Entries.get?_eq_some_iff d.ordered).2 hmem
    exact absurd (h.symm.trans hfound) (by simp)
  simpa using hne

theorem keys_erase (d : Dict α) (key : String) :
    (d.erase key).keys = d.keys.filter (· ≠ key) := by
  unfold keys Entries.keys erase Entries.remove
  rw [List.filter_map]
  rfl

theorem isEmpty_iff_keys {d : Dict α} : d.isEmpty = true ↔ d.keys = [] := by
  unfold isEmpty keys Entries.keys
  rw [List.isEmpty_iff, List.map_eq_nil_iff]

end Dict

namespace Arguments

/-- The value that is found under a name: the explicit one, or else the initialised one. -/
def value? (args : Arguments) (name : String) : Option Value :=
  (args.explicit.get? name).or (args.initialised.get? name)

/-- The arguments after a name was asked for. -/
def without (args : Arguments) (name : String) : Arguments :=
  { args with explicit := args.explicit.erase name }

/-- The explicit names that are not among those asked for. -/
def unexpected (args : Arguments) (asked : List String) : List String :=
  args.explicit.keys.filter (· ∉ asked)

/-- The argument of a name that must be there. -/
def required (args : Arguments) (shape : Shape) (name : String) : Except CallError shape.Carrier :=
  match args.value? name with
  | none => .error (.missingArgument name)
  | some value => convert shape name value

/-- The argument of a name that may be missing or null. -/
def optional (args : Arguments) (shape : Shape) (name : String) :
    Except CallError (Option shape.Carrier) :=
  match args.value? name with
  | none => .ok none
  | some .null => .ok none
  | some value => (convert shape name value).map some

/-- What is said of explicit names that nobody asked for. -/
def finish (args : Arguments) (asked : List String) : Except CallError Unit :=
  match args.unexpected asked with
  | [] => .ok ()
  | names => .error (.unexpectedArguments names)

variable (args : Arguments)

theorem take_eq (name : String) : args.take name = (args.value? name, args.without name) := by
  unfold take value? without
  cases hfound : args.explicit.get? name with
  | some value => rfl
  | none => rw [Dict.erase_of_get?_eq_none hfound]; rfl

@[simp] theorem value?_without_of_ne {name other : String} (h : name ≠ other) :
    (args.without name).value? other = args.value? other := by
  simp [value?, without, h]

theorem unexpected_nil : args.unexpected [] = args.explicit.keys := by
  simp [unexpected]

theorem unexpected_without (name : String) (asked : List String) :
    (args.without name).unexpected asked = args.unexpected (name :: asked) := by
  unfold unexpected without
  rw [Dict.keys_erase, List.filter_filter]
  congr 1
  funext key
  simp [Bool.and_comm]

theorem optional_without {name other : String} (h : name ≠ other) (shape : Shape) :
    (args.without name).optional shape other = args.optional shape other := by
  unfold optional
  rw [value?_without_of_ne args h]

theorem finish_without (name : String) (asked : List String) :
    (args.without name).finish asked = args.finish (name :: asked) := by
  unfold finish
  rw [unexpected_without]

end Arguments

namespace ArgumentReader

variable {α β : Type} (args : Arguments)

theorem run_required (shape : Shape) (name : String) :
    (required shape name).run.run args = (args.required shape name, args.without name) := by
  unfold required Arguments.required
  simp only [ExceptT.run_mk, StateT.run, Arguments.take_eq]
  cases args.value? name with
  | none => rfl
  | some value => rfl

theorem run_optional (shape : Shape) (name : String) :
    (optional shape name).run.run args = (args.optional shape name, args.without name) := by
  unfold optional Arguments.optional
  simp only [ExceptT.run_mk, StateT.run, Arguments.take_eq]
  cases args.value? name with
  | none => rfl
  | some value =>
      cases value with
      | _ => rfl

theorem run_finish : finish.run.run args = (args.finish [], args) := by
  show (if args.explicit.isEmpty then (Except.ok (), args)
    else (Except.error (CallError.unexpectedArguments args.explicit.keys), args)) = _
  unfold Arguments.finish
  rw [Arguments.unexpected_nil]
  cases hkeys : args.explicit.keys with
  | nil => rw [if_pos (Dict.isEmpty_iff_keys.2 hkeys)]
  | cons key rest =>
      have hne : args.explicit.isEmpty ≠ true := by
        intro hempty
        rw [Dict.isEmpty_iff_keys.1 hempty] at hkeys
        cases hkeys
      rw [if_neg hne]

theorem run_settled (outcome : Except CallError α) :
    (ExceptT.mk (pure outcome) : ArgumentReader α).run.run args = (outcome, args) := rfl

theorem read_bind {x : ArgumentReader β} {args left : Arguments} {outcome : Except CallError β}
    (h : x.run.run args = (outcome, left)) (f : β → ArgumentReader α) :
    args.read (x >>= f) = outcome.bind fun b => left.read (f b) := by
  have hbind : (x >>= f).run = x.run >>= ExceptT.bindCont f := rfl
  unfold Arguments.read
  rw [hbind, StateT.run_bind, h]
  cases outcome with
  | error e => rfl
  | ok b => rfl

end ArgumentReader

namespace Arguments

open ArgumentReader

variable (args : Arguments)

theorem read_nothing : args.read ArgumentReader.finish = args.finish [] := by
  unfold read
  rw [run_finish]

/-- What is said of the arguments of a payload. -/
theorem read_payload :
    args.read MemorySource.described =
      (args.required .any "data").bind fun data => (args.finish ["data"]).map fun _ => data := by
  unfold MemorySource.described
  rw [read_bind (run_required args .any "data")]
  congr 1
  funext data
  rw [read_bind (run_finish _), finish_without]
  cases args.finish ["data"] with
  | error e => rfl
  | ok _ => rfl

/-- What is said of the arguments of a bound. -/
theorem read_bound (name : String) :
    args.read (Validator.bound name) =
      (args.required .natural name).bind fun n => (args.finish [name]).map fun _ => n := by
  unfold Validator.bound
  rw [read_bind (run_required args .natural name)]
  congr 1
  funext n
  rw [read_bind (run_finish _), finish_without]
  cases args.finish [name] with
  | error e => rfl
  | ok _ => rfl

/-- What is said of the arguments of a file. -/
theorem read_file :
    args.read FileSource.described =
      (args.required .string "path").bind fun path =>
        (args.optional .string "format").bind fun name =>
          (name.elim (.ok .text) FileFormat.parse).bind fun format =>
            (args.optional .string "base_dir").bind fun base =>
              (args.finish ["path", "format", "base_dir"]).map fun _ =>
                ((base.map (Path.join · path)).getD path, format) := by
  -- what comes after the format is the same whether a format is named or not
  have hrest (path : String) (format : FileFormat) :
      ((args.without "path").without "format").read (do
        let base ← ArgumentReader.optional .string "base_dir"
        ArgumentReader.finish
        return ((base.map (Path.join · path)).getD path, format)) =
      (args.optional .string "base_dir").bind fun base =>
        (args.finish ["path", "format", "base_dir"]).map fun _ =>
          ((base.map (Path.join · path)).getD path, format) := by
    rw [read_bind (run_optional _ .string "base_dir"), optional_without _ (by decide),
      optional_without _ (by decide)]
    congr 1
    funext base
    rw [read_bind (run_finish _), finish_without, finish_without, finish_without]
    cases args.finish ["path", "format", "base_dir"] with
    | error e => rfl
    | ok _ => rfl
  unfold FileSource.described
  rw [read_bind (run_required args .string "path")]
  congr 1
  funext path
  rw [read_bind (run_optional _ .string "format"), optional_without args (by decide)]
  congr 1
  funext name
  cases name with
  | none =>
      show ((args.without "path").without "format").read (pure FileFormat.text >>= _) = _
      rw [pure_bind]
      exact hrest path .text
  | some name =>
      rw [Option.elim_some]
      dsimp only
      rw [read_bind (run_settled _ (FileFormat.parse name))]
      congr 1
      funext format
      exact hrest path format

end Arguments

/-! ## The callables of the registry -/

namespace Registry

variable {m : Type → Type} {registry : Registry m} {reference : String}

theorem entries_registerAll (r : Registry m) (added : List (String × Callable m)) :
    (r.registerAll added).callables.entries =
      added.foldl (fun acc entry => Entries.put entry.1 entry.2 acc) r.callables.entries := by
  induction added generalizing r with
  | nil => rfl
  | cons head rest ih => exact ih (r.register head.1 head.2)

theorem get?_of_resolve {callable : Callable m} (h : registry.resolve reference = .ok callable) :
    registry.callables.get? reference = some callable := by
  unfold resolve at h
  split at h
  · split at h
    · rename_i found hfound
      cases h
      exact hfound
    · dsimp only at h
      split at h
      · cases h
      · split at h <;> cases h
  · cases h

theorem resolve_of_resolveFactory {run : Arguments → ExceptT CallError m Value}
    (h : registry.resolveFactory reference = .ok run) :
    registry.resolve reference = .ok (.factory run) := by
  unfold resolveFactory at h
  split at h
  · rename_i found hfound
    cases h
    exact hfound
  · cases h
  · cases h

theorem resolve_of_resolveValidator {run : Source → Arguments → ExceptT CallError m Verdict}
    (h : registry.resolveValidator reference = .ok run) :
    registry.resolve reference = .ok (.validator run) := by
  unfold resolveValidator at h
  split at h
  · rename_i found hfound
    cases h
    exact hfound
  · cases h
  · cases h

end Registry

namespace BuiltIn

variable {m : Type → Type} [Monad m] [Files m] [Memory m] {reference : String}

theorem mem_of_resolve {callable : Callable m}
    (h : (registry : Registry m).resolve reference = .ok callable) :
    (reference, callable) ∈ (callables : List (String × Callable m)) := by
  have hmem := Entries.mem_of_get?_eq_some (Registry.get?_of_resolve h)
  unfold registry at hmem
  rw [Registry.entries_registerAll] at hmem
  exact Entries.mem_of_mem_ofList hmem

/-- The built-in factories make payloads and files into sources. -/
theorem factory_of_resolve {run : Arguments → ExceptT CallError m Value}
    (h : (registry : Registry m).resolveFactory reference = .ok run) :
    run = MemorySource.factory ∨ run = FileSource.factory := by
  have hmem := mem_of_resolve (Registry.resolve_of_resolveFactory h)
  simp only [callables, List.mem_cons, Prod.mk.injEq, Callable.factory.injEq, reduceCtorEq,
    and_false, List.not_mem_nil, or_false] at hmem
  exact hmem.imp And.right And.right

/-- The built-in validators look at the content of a source or at its length. -/
theorem validator_of_resolve {run : Source → Arguments → ExceptT CallError m Verdict}
    (h : (registry : Registry m).resolveValidator reference = .ok run) :
    run = Validator.notEmpty ∨ run = Validator.minLength ∨ run = Validator.maxLength ∨
      run = Validator.fileExists := by
  have hmem := mem_of_resolve (Registry.resolve_of_resolveValidator h)
  simp only [callables, List.mem_cons, Prod.mk.injEq, Callable.validator.injEq, reduceCtorEq,
    and_false, List.not_mem_nil, or_false, false_or] at hmem
  exact hmem.imp And.right (Or.imp And.right (Or.imp And.right And.right))

end BuiltIn

end DataCatalog
