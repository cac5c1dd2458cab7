import DataCatalog.Arguments
import DataCatalog.Proofs.EntryLists

/-!
# Converting arguments

A callable asks for an argument of a shape, and the value is converted: a list element by element,
everything else as a whole.  `Shape.Fits` says which values have a shape, `Shape.toValue` turns what
was converted into a value again.

Main statement: `Shape.conversion_exact` says that the values that have a shape are those that are
converted, that nothing is lost but where an integer becomes a float, and that a value that is
refused comes back whole, so that a complaint names its kind.
-/

set_option autoImplicit false

namespace DataCatalog

namespace Shape

/-- The values that have a shape, at every element. -/
inductive Fits : Shape → Value → Prop
  | any (v : Value) : Fits .any v
  | string (t : String) : Fits .string (.string t)
  | bool (b : Bool) : Fits .bool (.bool b)
  | integer (i : Int64) : Fits .integer (.int i)
  | natural {i : Int64} (nonneg : 0 ≤ i.toInt) : Fits .natural (.int i)
  | float (x : Binary64) : Fits .number (.float x)
  | wholeNumber (i : Int64) : Fits .number (.int i)
  | map (entries : Entries Value) : Fits .map (.map entries)
  | list {item : Shape} {items : List Value} (each : ∀ v ∈ items, Fits item v) :
      Fits (.list item) (.list items)

/-- What was converted, as a value again. -/
def toValue : (s : Shape) → s.Carrier → Value
  | .any, v => v
  | .string, t => .string t
  | .bool, b => .bool b
  | .integer, i => .int i
  | .natural, n => .int (Int64.ofNat n)
  | .number, x => .float x
  | .map, entries => .map entries
  | .list item, converted => .list (converted.map item.toValue)

/-- Whether floats are asked for, at any depth. -/
def hasNumber : Shape → Bool
  | .number => true
  | .list item => item.hasNumber
  | _ => false

/-- A value with its integers rounded to floats where floats are asked for. -/
def rounded : Shape → Value → Value
  | .number, .int i => .float (Binary64.ofInt i.toInt)
  | .list item, .list items => .list (items.map item.rounded)
  | _, v => v

/-! ## Lists -/

theorem readItems_eq_some_iff {α : Type} {read : Value → Except Value α} {items : List Value}
    {converted : List α} :
    readItems read items = some converted ↔
      List.Forall₂ (fun v a => read v = .ok a) items converted := by
  induction items generalizing converted with
  | nil => simp [readItems, eq_comm]
  | cons v rest ih =>
      simp only [List.forall₂_cons_left_iff, readItems, ← ih]
      cases read v with
      | error w => simp
      | ok a =>
          rw [Option.map_eq_some_iff]
          constructor
          · rintro ⟨later, hlater, rfl⟩
            exact ⟨a, later, rfl, hlater, rfl⟩
          · rintro ⟨b, later, hb, hlater, rfl⟩
            cases hb
            exact ⟨later, hlater, rfl⟩

/-- A list is converted element by element. -/
theorem read_list_eq_ok_iff {item : Shape} {items : List Value} {converted : List item.Carrier} :
    (Shape.list item).read (.list items) = .ok converted ↔
      List.Forall₂ (fun v a => item.read v = .ok a) items converted := by
  rw [← readItems_eq_some_iff, read]
  cases readItems item.read items with
  | none => simp
  | some found => simp

/-! ## Success and failure -/

theorem ofNat_toNat_toInt {i : Int64} (nonneg : 0 ≤ i.toInt) : Int64.ofNat i.toInt.toNat = i := by
  rw [← Int64.ofInt_eq_ofNat, Int.toNat_of_nonneg nonneg, Int64.ofInt_toInt]

/-- A value that is converted has the shape, and can be had back but for its rounded integers. -/
theorem of_read_eq_ok {s : Shape} {v : Value} {a : s.Carrier} (h : s.read v = .ok a) :
    s.Fits v ∧ s.toValue a = s.rounded v := by
  -- By the shape: the elements of a list have been converted to the shape of an item.
  induction s generalizing v with
  | any =>
      cases h
      exact ⟨.any _, rfl⟩
  | string =>
      cases v with
      | string t =>
          cases h
          exact ⟨.string _, rfl⟩
      | _ => cases h
  | bool =>
      cases v with
      | bool b =>
          cases h
          exact ⟨.bool _, rfl⟩
      | _ => cases h
  | integer =>
      cases v with
      | int i =>
          cases h
          exact ⟨.integer _, rfl⟩
      | _ => cases h
  | natural =>
      cases v with
      | int i =>
          rw [read] at h
          split at h
          · rename_i nonneg
            cases h
            exact ⟨.natural nonneg, congrArg Value.int (ofNat_toNat_toInt nonneg)⟩
          · cases h
      | _ => cases h
  | number =>
      cases v with
      | float x =>
          cases h
          exact ⟨.float _, rfl⟩
      | int i =>
          cases h
          exact ⟨.wholeNumber _, rfl⟩
      | _ => cases h
  | map =>
      cases v with
      | map entries =>
          cases h
          exact ⟨.map _, rfl⟩
      | _ => cases h
  | list item ih =>
      cases v with
      | list items =>
          have helements := (read_list_eq_ok_iff.1 h).imp fun v a hread => ih hread
          have heach : ∀ v ∈ items, item.Fits v := fun v hmem => by
            obtain ⟨_, -, hfits, -⟩ := exists_related_of_mem helements hmem
            exact hfits
          have hback : List.Forall₂ (· = ·) (items.map item.rounded) (a.map item.toValue) := by
            rw [List.forall₂_map_left_iff, List.forall₂_map_right_iff]
            exact helements.imp fun _ _ hboth => hboth.2.symm
          rw [List.forall₂_eq_eq_eq] at hback
          exact ⟨.list heach, congrArg Value.list hback.symm⟩
      | _ => cases h

theorem exists_read_of_fits {s : Shape} {v : Value} (h : s.Fits v) : ∃ a, s.read v = .ok a := by
  induction h with
  | @natural i nonneg => exact ⟨i.toInt.toNat, if_pos nonneg⟩
  | list each ih =>
      obtain ⟨converted, hconverted⟩ := exists_forall₂_iff.2 ih
      exact ⟨converted, read_list_eq_ok_iff.2 hconverted⟩
  | _ => exact ⟨_, rfl⟩

/-- The values that are converted are those that have the shape. -/
theorem exists_read_iff (s : Shape) (v : Value) : (∃ a, s.read v = .ok a) ↔ s.Fits v :=
  ⟨fun ⟨_, h⟩ => (of_read_eq_ok h).1, exists_read_of_fits⟩

/-- A value that is refused comes back whole, wherever in it the fault is. -/
theorem eq_of_read_eq_error {s : Shape} {v w : Value} (h : s.read v = .error w) : w = v := by
  cases s with
  | natural =>
      cases v with
      | int i =>
          rw [read] at h
          split at h
          · cases h
          · cases h
            rfl
      | _ =>
          cases h
          rfl
  | list item =>
      cases v with
      | list items =>
          rw [read] at h
          cases hfound : readItems item.read items with
          | none =>
              rw [hfound] at h
              cases h
              rfl
          | some converted =>
              rw [hfound] at h
              cases h
      | _ =>
          cases h
          rfl
  | _ =>
      -- The other shapes refuse in their last case only, which gives back what it got.
      cases v with
      | _ => cases h <;> rfl

/-- Nothing is rounded where no floats are asked for. -/
theorem rounded_of_not_hasNumber {s : Shape} (h : s.hasNumber = false) (v : Value) :
    s.rounded v = v := by
  induction s generalizing v with
  | number => cases h
  | list item ih =>
      cases v with
      | list items =>
          rw [rounded, List.map_congr_left fun v _ => ih h v, List.map_id']
      | _ => rfl
  | _ => rfl

/-- What converting to a shape comes to, for all values. -/
structure Exact (s : Shape) : Prop where
  read_ok_iff : ∀ v, (∃ a, s.read v = .ok a) ↔ s.Fits v
  read_list_iff : ∀ (items : List Value) (converted : List s.Carrier),
    (Shape.list s).read (.list items) = .ok converted ↔
      List.Forall₂ (fun v a => s.read v = .ok a) items converted
  toValue_eq_rounded : ∀ v a, s.read v = .ok a → s.toValue a = s.rounded v
  toValue_eq : s.hasNumber = false → ∀ v a, s.read v = .ok a → s.toValue a = v
  refused_eq : ∀ v w, s.read v = .error w → w = v
  complaint_iff : ∀ name v e, Arguments.convert s name v = .error e ↔
    ¬s.Fits v ∧ e = .invalidArgument name s.expected v.kind

theorem convert_eq_error_iff {s : Shape} {name : String} {v : Value} {e : CallError} :
    Arguments.convert s name v = .error e ↔
      ¬s.Fits v ∧ e = .invalidArgument name s.expected v.kind := by
  rw [← exists_read_iff, Arguments.convert]
  cases hread : s.read v with
  | ok a => simp
  | error w =>
      rw [eq_of_read_eq_error hread]
      simp [eq_comm]

/-- A value is converted exactly when it has the shape at every element; a list keeps its elements
in order; what was converted can be had back as it was, but for integers where floats are asked for;
and a value that is refused comes back whole, so that the complaint names its kind and not that of
an element. -/
theorem conversion_exact (s : Shape) : s.Exact where
  read_ok_iff := exists_read_iff s
  read_list_iff _ _ := read_list_eq_ok_iff
  toValue_eq_rounded _ _ h := (of_read_eq_ok h).2
  toValue_eq hnumber v _ h := (of_read_eq_ok h).2.trans (rounded_of_not_hasNumber hnumber v)
  refused_eq _ _ h := eq_of_read_eq_error h
  complaint_iff _ _ _ := convert_eq_error_iff

/-- A text deep inside a list makes the complaint name the list. -/
example : Arguments.convert (.list (.list .integer)) "rows"
    (.list [.list [.int 1], .list [.int 2, .string "x"]]) =
      .error (.invalidArgument "rows" "a list" "list") := rfl

end Shape

end DataCatalog
