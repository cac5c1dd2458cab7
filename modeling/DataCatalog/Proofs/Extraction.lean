import DataCatalog.Proofs.AskedArguments
import DataCatalog.Proofs.Runs

/-!
# Using arguments again and again

A callable may use its arguments in any order and as often as it likes: it looks whether a name is
there, asks for it as one shape or another, goes on after an ask that failed, or takes all that is
left.  An ask takes the explicit value of its name away, also when the value does not convert, and
finds the initialised one when it is made again.

Main statements: `explicit_stands_iff` says when the explicit value of a name is all that asking
for the name gives, and `accounts_after` that the explicit names still there are those that no use
has taken, whatever is initialised.
-/

set_option autoImplicit false

namespace DataCatalog

theorem ArgumentReader.run_optionalOr (args : Arguments) (shape : Shape) (name : String)
    (default : shape.Carrier) :
    (optionalOr shape name default).run.run args =
      ((args.optional shape name).map (·.getD default), args.without name) := by
  unfold optionalOr
  have hrun := run_optional args shape name
  cases hfound : args.optional shape name with
  | error e =>
      rw [hfound] at hrun
      exact run_bind_error _ hrun
  | ok found =>
      rw [hfound] at hrun
      exact run_bind_ok _ hrun

/-! ## Asks -/

/-- One way to ask for an argument. -/
inductive Ask where
  | required (shape : Shape) (name : String)
  | optional (shape : Shape) (name : String)
  | optionalOr (shape : Shape) (name : String) (default : shape.Carrier)

namespace Ask

def name : Ask → String
  | .required _ name => name
  | .optional _ name => name
  | .optionalOr _ name _ => name

/-- The type of what an ask gives. -/
@[reducible] def Answer : Ask → Type
  | .required shape _ => shape.Carrier
  | .optional shape _ => Option shape.Carrier
  | .optionalOr shape _ _ => shape.Carrier

def reader : (a : Ask) → ArgumentReader a.Answer
  | .required shape name => ArgumentReader.required shape name
  | .optional shape name => ArgumentReader.optional shape name
  | .optionalOr shape name default => ArgumentReader.optionalOr shape name default

/-- What an ask makes of a value: the value converted, and nothing of null where it may be
missing. -/
def ofValue : (a : Ask) → Value → Except CallError a.Answer
  | .required shape name, value => Arguments.convert shape name value
  | .optional shape name, value =>
      if value.isNull then .ok none else (Arguments.convert shape name value).map some
  | .optionalOr shape name default, value =>
      if value.isNull then .ok default else Arguments.convert shape name value

/-- What an ask makes of a name without a value. -/
def ofNothing : (a : Ask) → Except CallError a.Answer
  | .required _ name => .error (.missingArgument name)
  | .optional _ _ => .ok none
  | .optionalOr _ _ default => .ok default

/-- What an ask makes of what it finds. -/
def answer (a : Ask) : Option Value → Except CallError a.Answer
  | some value => a.ofValue value
  | none => a.ofNothing

theorem optional_eq_answer (args : Arguments) (shape : Shape) (name : String) :
    args.optional shape name = (Ask.optional shape name).answer (args.value? name) := by
  unfold Arguments.optional
  cases args.value? name with
  | none => rfl
  | some value =>
      cases value with
      | _ => rfl

/-- A default stands in for an argument that may be missing. -/
theorem answer_optionalOr (shape : Shape) (name : String) (default : shape.Carrier)
    (found : Option Value) :
    (Ask.optionalOr shape name default).answer found =
      ((Ask.optional shape name).answer found).map (·.getD default) := by
  cases found with
  | none => rfl
  | some value =>
      show (if value.isNull then .ok default else Arguments.convert shape name value) =
        (if value.isNull then .ok none else (Arguments.convert shape name value).map some).map
          (·.getD default)
      cases value.isNull with
      | true => rfl
      | false =>
          cases Arguments.convert shape name value with
          | error e => rfl
          | ok converted => rfl

/-- An ask is answered from what is found under its name, which it takes away. -/
theorem run_reader (a : Ask) (args : Arguments) :
    a.reader.run.run args = (a.answer (args.value? a.name), args.without a.name) := by
  cases a with
  | required shape name =>
      have hrequired : args.required shape name =
          (Ask.required shape name).answer (args.value? name) := by
        unfold Arguments.required
        cases args.value? name with
        | none => rfl
        | some value => rfl
      exact (ArgumentReader.run_required args shape name).trans (Prod.ext hrequired rfl)
  | optional shape name =>
      exact (ArgumentReader.run_optional args shape name).trans
        (Prod.ext (optional_eq_answer args shape name) rfl)
  | optionalOr shape name default =>
      rw [answer_optionalOr]
      refine (ArgumentReader.run_optionalOr args shape name default).trans (Prod.ext ?_ rfl)
      exact congrArg (Except.map (·.getD default)) (optional_eq_answer args shape name)

end Ask

/-! ## Uses -/

/-- One thing that a callable does with its arguments. -/
inductive Use where
  | contains (name : String)
  | ask (a : Ask)
  | remaining

namespace Use

/-- The arguments that a use leaves, whether it fails or not. -/
def left (args : Arguments) : Use → Arguments
  | .contains _ => args
  | .ask a => (a.reader.run.run args).2
  | .remaining => (ArgumentReader.remaining.run.run args).2

/-- Whether a use takes the explicit argument of a name away, if there is one. -/
def takes (name : String) : Use → Bool
  | .contains _ => false
  | .ask a => decide (a.name = name)
  | .remaining => true

theorem left_ask (args : Arguments) (a : Ask) : left args (.ask a) = args.without a.name :=
  congrArg Prod.snd (a.run_reader args)

theorem initialised_left (args : Arguments) (u : Use) :
    (u.left args).initialised = args.initialised := by
  cases u with
  | contains name => rfl
  | ask a =>
      rw [left_ask]
      rfl
  | remaining => rfl

theorem get?_explicit_left (args : Arguments) (u : Use) (name : String) :
    (u.left args).explicit.get? name =
      if u.takes name then none else args.explicit.get? name := by
  cases u with
  | contains other => rfl
  | ask a =>
      rw [left_ask]
      simp [Arguments.without, takes]
  | remaining => rfl

end Use

namespace Arguments

/-- The arguments after some uses, one after the other. -/
def after (args : Arguments) (uses : List Use) : Arguments :=
  uses.foldl Use.left args

theorem initialised_after (args : Arguments) (uses : List Use) :
    (args.after uses).initialised = args.initialised := by
  induction uses generalizing args with
  | nil => rfl
  | cons u rest ih => exact (ih (u.left args)).trans (u.initialised_left args)

/-- An explicit value is there until a use takes it away. -/
theorem get?_explicit_after (args : Arguments) (uses : List Use) (name : String) :
    (args.after uses).explicit.get? name =
      if uses.any (·.takes name) then none else args.explicit.get? name := by
  induction uses generalizing args with
  | nil => rfl
  | cons u rest ih =>
      refine (ih (u.left args)).trans ?_
      rw [Use.get?_explicit_left, List.any_cons]
      cases u.takes name with
      | true => simp
      | false => simp

/-! ## Explicit values -/

theorem any_takes_asks (asks : List Ask) (name : String) :
    (asks.map Use.ask).any (·.takes name) = decide (name ∈ asks.map Ask.name) := by
  induction asks with
  | nil => rfl
  | cons a rest ih =>
      rw [List.map_cons, List.any_cons, ih]
      simp [Use.takes, eq_comm]

/-- The first ask for a name finds the explicit value, if there is one; every later ask finds the
initialised one. -/
theorem read_after_asks (args : Arguments) (before : List Ask) (a : Ask) :
    (args.after (before.map .ask)).read a.reader =
      a.answer (if a.name ∈ before.map Ask.name then args.initialised.get? a.name
        else args.value? a.name) := by
  refine (congrArg Prod.fst (a.run_reader _)).trans (congrArg a.answer ?_)
  unfold value?
  rw [get?_explicit_after, initialised_after, any_takes_asks]
  by_cases hasked : a.name ∈ before.map Ask.name
  · simp only [hasked, decide_true, if_true, Option.none_or]
  · simp only [hasked, decide_false, Bool.false_eq_true, if_false]

/-- Explicit values stand: an ask for a name that the recipe gives, and that succeeds, gives what it
makes of the value in the recipe. -/
def ExplicitStands (args : Arguments) (asks : List Ask) : Prop :=
  ∀ before a later, asks = before ++ a :: later →
    ∀ given, args.explicit.get? a.name = some given →
      ∀ answer, (args.after (before.map .ask)).read a.reader = .ok answer →
        a.ofValue given = .ok answer

/-- The first ask for a name that the recipe gives is answered from the recipe alone.  Explicit
values stand for a whole list of asks exactly when each ask that is made again either fails on the
initialised value of its name, or gives with it what it would give with the explicit one. -/
theorem explicit_stands_iff (args : Arguments) (asks : List Ask) :
    (∀ (before : List Ask) (a : Ask), a.name ∉ before.map Ask.name →
      ∀ given, args.explicit.get? a.name = some given →
        (args.after (before.map .ask)).read a.reader = a.ofValue given) ∧
    (args.ExplicitStands asks ↔
      ∀ before a later, asks = before ++ a :: later → a.name ∈ before.map Ask.name →
        ∀ given, args.explicit.get? a.name = some given →
          ∀ answer, a.answer (args.initialised.get? a.name) = .ok answer →
            a.ofValue given = .ok answer) := by
  have hfirst (before : List Ask) (a : Ask) (hnew : a.name ∉ before.map Ask.name) (given : Value)
      (hgiven : args.explicit.get? a.name = some given) :
      (args.after (before.map .ask)).read a.reader = a.ofValue given := by
    rw [read_after_asks, if_neg hnew]
    unfold value?
    rw [hgiven]
    rfl
  refine ⟨hfirst, ?_, ?_⟩
  · intro hstands before a later hasks hagain given hgiven answer hanswer
    refine hstands before a later hasks given hgiven answer ?_
    rw [read_after_asks, if_pos hagain]
    exact hanswer
  · intro hrepeated before a later hasks given hgiven answer hanswer
    by_cases hagain : a.name ∈ before.map Ask.name
    · rw [read_after_asks, if_pos hagain] at hanswer
      exact hrepeated before a later hasks hagain given hgiven answer hanswer
    · rwa [hfirst before a hagain given hgiven] at hanswer

/-- Asked for a second time, a name that the recipe gives has the initialised value. -/
theorem explicit_gives_way :
    ¬ExplicitStands
      ⟨Dict.ofList [("schema", .string "sales")], Dict.ofList [("schema", .string "public")]⟩
      [.required .string "schema", .required .string "schema"] := by
  intro hstands
  have hsales : (Ask.required .string "schema").ofValue (.string "sales") = .ok "public" :=
    hstands [.required .string "schema"] (.required .string "schema") [] rfl
      (.string "sales") rfl "public" rfl
  have heq : "sales" = "public" := Except.ok.inj hsales
  exact absurd heq (by decide)

/-! ## Names that nobody has asked for -/

/-- What the arguments say of the explicit names that are left after some uses: these are the names
that no ask was for, unless all that was left has been handed over. -/
structure Accounts (args : Arguments) (uses : List Use) (names : List String) : Prop where
  mem_iff : ∀ name, name ∈ names ↔ args.explicit.contains name = true ∧ Use.remaining ∉ uses ∧
    ∀ a, Use.ask a ∈ uses → a.name ≠ name
  increasing : names.Pairwise (· < ·)
  size_eq : (args.after uses).size = names.length
  remaining_eq : ∃ entries, (args.after uses).read ArgumentReader.remaining = .ok entries ∧
    Entries.keys entries = names ∧
    ∀ name value, (name, value) ∈ entries → args.explicit.get? name = some value
  finish_ok_iff : (args.after uses).read ArgumentReader.finish = .ok () ↔
    Use.remaining ∈ uses ∨
      ∀ name, args.explicit.contains name = true → ∃ a, Use.ask a ∈ uses ∧ a.name = name
  finish_error : ∀ e, (args.after uses).read ArgumentReader.finish = .error e →
    e = .unexpectedArguments names
  initialised_eq : (args.after uses).initialised = args.initialised
  explicit_eq : ∀ other : Dict Value,
    (Arguments.after ⟨args.explicit, other⟩ uses).explicit = (args.after uses).explicit

theorem any_takes_eq_false_iff {uses : List Use} {name : String} :
    uses.any (·.takes name) = false ↔
      Use.remaining ∉ uses ∧ ∀ a, Use.ask a ∈ uses → a.name ≠ name := by
  rw [List.any_eq_false]
  constructor
  · intro h
    refine ⟨fun hmem => h .remaining hmem rfl, fun a hmem heq => ?_⟩
    exact h (.ask a) hmem (decide_eq_true heq)
  · rintro ⟨hremaining, hasks⟩ u hmem htakes
    cases u with
    | contains other => cases htakes
    | ask a => exact hasks a hmem (of_decide_eq_true htakes)
    | remaining => exact hremaining hmem

/-- The explicit names that are left are those that no use has taken. -/
theorem mem_keys_after (args : Arguments) (uses : List Use) (name : String) :
    name ∈ (args.after uses).explicit.keys ↔ args.explicit.contains name = true ∧
      Use.remaining ∉ uses ∧ ∀ a, Use.ask a ∈ uses → a.name ≠ name := by
  rw [← any_takes_eq_false_iff, Dict.contains_eq_isSome_get?]
  unfold Dict.keys
  rw [← Entries.has_iff_mem_keys, Entries.has_eq_isSome_get?]
  show ((args.after uses).explicit.get? name).isSome = true ↔ _
  rw [get?_explicit_after]
  cases uses.any (·.takes name) with
  | true => simp
  | false => simp

/-- A list of explicit names is empty once all of them have been asked for or handed over. -/
theorem keys_after_eq_nil_iff (args : Arguments) (uses : List Use) :
    (args.after uses).explicit.keys = [] ↔ Use.remaining ∈ uses ∨
      ∀ name, args.explicit.contains name = true → ∃ a, Use.ask a ∈ uses ∧ a.name = name := by
  rw [List.eq_nil_iff_forall_not_mem]
  simp only [mem_keys_after]
  constructor
  · intro h
    by_cases hremaining : Use.remaining ∈ uses
    · exact .inl hremaining
    · refine .inr fun name hname => Classical.byContradiction fun hasked => ?_
      exact h name ⟨hname, hremaining, fun a hmem heq => hasked ⟨a, hmem, heq⟩⟩
  · rintro (hremaining | hall) name ⟨hname, hkept, hasks⟩
    · exact hkept hremaining
    · obtain ⟨a, hmem, heq⟩ := hall name hname
      exact hasks a hmem heq

theorem finish_nil_eq_ok_iff (args : Arguments) :
    args.finish [] = .ok () ↔ args.explicit.keys = [] := by
  unfold finish
  rw [unexpected_nil]
  cases args.explicit.keys with
  | nil => simp
  | cons name rest => simp

theorem eq_of_finish_nil_eq_error {args : Arguments} {e : CallError}
    (h : args.finish [] = .error e) : e = .unexpectedArguments args.explicit.keys := by
  unfold finish at h
  rw [unexpected_nil] at h
  cases hkeys : args.explicit.keys with
  | nil =>
      rw [hkeys] at h
      cases h
  | cons name rest =>
      rw [hkeys] at h
      cases h
      rfl

/-- Whatever is done with arguments, the explicit names still there are those that nobody has asked
for, in order: they are counted, handed over with their values and named by the complaint.  There is
a complaint exactly when there are such names.  What is initialised plays no part in it and stays
as it is. -/
theorem accounts_after (args : Arguments) (uses : List Use) :
    args.Accounts uses (args.after uses).explicit.keys where
  mem_iff := mem_keys_after args uses
  increasing := Entries.ordered_iff_keys.1 (args.after uses).explicit.ordered
  size_eq := (List.length_map Prod.fst).symm
  remaining_eq := by
    refine ⟨(args.after uses).explicit.entries, rfl, rfl, fun name value hmem => ?_⟩
    have hfound : (args.after uses).explicit.get? name = some value :=
      (Entries.get?_eq_some_iff (args.after uses).explicit.ordered).2 hmem
    rw [get?_explicit_after] at hfound
    split at hfound
    · cases hfound
    · exact hfound
  finish_ok_iff := by
    rw [read_nothing, finish_nil_eq_ok_iff, keys_after_eq_nil_iff]
  finish_error := by
    intro e he
    rw [read_nothing] at he
    exact eq_of_finish_nil_eq_error he
  initialised_eq := initialised_after args uses
  explicit_eq := by
    intro other
    apply Dict.ext
    apply Entries.eq_of_get? (Dict.ordered _) (Dict.ordered _)
    intro name
    show Dict.get? _ name = Dict.get? _ name
    rw [get?_explicit_after, get?_explicit_after]

end Arguments

end DataCatalog
