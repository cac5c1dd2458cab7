import DataCatalog.Proofs.Placeholders
import DataCatalog.Template.Render

/-!
# Paths as expressions

The tokens of a placeholder are read as look-ups of its names, one in the other.

Main statements: `Expr.parse?_placeholder` says that the tokens are read, as a path that stands on
the line of its first name, and `Expr.IsPath.print_of_some` and `Expr.IsPath.print_of_none` what a
path is printed as, and which line is blamed where it leads to nothing.
-/

set_option autoImplicit false

namespace DataCatalog.Template

namespace Expr

/-- Look-ups of names one in the other, on one line. -/
inductive IsPath (line : Nat) : List String → Expr → Prop where
  | name {id : String} {span : Span} (on_line : span.start.line = line) :
      IsPath line [id] (.name id span)
  | member {names : List String} {base : Expr} {id : String} {site : Site}
      (base_path : IsPath line names base) (on_line : site.line = line) :
      IsPath line (names ++ [id]) (.member base id site)

theorem IsPath.site_line {line : Nat} {names : List String} {e : Expr} (h : e.IsPath line names) :
    e.site.line = line := by
  cases h with
  | name on_line => exact on_line
  | member _ on_line => exact on_line

/-! ## Reading the tokens -/

section Reading

variable {e : Expr} {last : Span}

/-- The names after the first one are looked up one after the other. -/
theorem lookups_dotted {line : Nat} {names : List String} (he : e.IsPath line names)
    (later : List Name) {fuel : Nat} (hfuel : later.length < fuel) (start last : Span)
    (spot : Spot) :
    ∃ path stop, lookups fuel start e ⟨last, dottedTokens spot later⟩ = some (path, ⟨stop, []⟩) ∧
      path.IsPath line (names ++ later.map Name.text) := by
  induction later generalizing e names fuel start last spot with
  | nil =>
      obtain ⟨fuel, rfl⟩ := Nat.exists_eq_succ_of_ne_zero (Nat.ne_zero_of_lt hfuel)
      exact ⟨e, last, by rw [lookups]; rfl, by rwa [List.map_nil, List.append_nil]⟩
  | cons n later ih =>
      obtain ⟨fuel, rfl⟩ := Nat.exists_eq_succ_of_ne_zero (Nat.ne_zero_of_lt hfuel)
      rw [List.length_cons] at hfuel
      have hmember : ∀ span, (Expr.member e n.text ⟨span, e.line⟩).IsPath line
          (names ++ [n.text]) := fun _ => he.member he.site_line
      rw [List.map_cons, List.append_cons, lookups]
      exact ih (hmember _) (Nat.lt_of_succ_lt_succ hfuel) _ _ _

/-- Nothing follows an operand that is not followed by an operator. -/
theorem level_of_operand {fuel : Nat} {l : Level} {c : Cursor}
    (h : operand (fuel + 1) l c = some (e, ⟨last, []⟩)) :
    level (fuel + 2) l c = some (e, ⟨last, []⟩) := by
  rw [level, h]
  dsimp only
  rw [operations]
  rfl

/-- An operand of the strongest level is an expression when nothing follows it. -/
theorem expression_of_unary {fuel : Nat} {c : Cursor} (hnot : c.seesName "not" = false)
    (h : unary fuel c = some (e, ⟨last, []⟩)) :
    expression (fuel + 12) c = some (e, ⟨last, []⟩) := by
  -- from the strongest level to the weakest, each an operand of the next
  have hconcat : level (fuel + 2) .concat c = some (e, ⟨last, []⟩) :=
    level_of_operand (by rw [operand, h])
  have hsum : level (fuel + 4) .sum c = some (e, ⟨last, []⟩) :=
    level_of_operand (by rw [operand, hconcat])
  have hcomparison : level (fuel + 6) .comparison c = some (e, ⟨last, []⟩) :=
    level_of_operand (by rw [operand, hsum])
  have hnegation : negation (fuel + 7) c = some (e, ⟨last, []⟩) := by
    rw [negation, hnot, hcomparison]
    rfl
  have hand : level (fuel + 9) .and c = some (e, ⟨last, []⟩) :=
    level_of_operand (by rw [operand, hnegation])
  have hor : level (fuel + 11) .or c = some (e, ⟨last, []⟩) :=
    level_of_operand (by rw [operand, hand])
  rw [expression, hor]
  dsimp only
  rw [choices]
  rfl

/-- A name that means nothing by itself is read as a name. -/
theorem signed_name {id : String} (hid : id ∉ taken) (span : Span) (rest : List Token)
    (fuel : Nat) :
    signed (fuel + 2) ⟨last, ⟨.name id, span⟩ :: rest⟩ = some (.name id span, ⟨span, rest⟩) := by
  have hminus : Cursor.sees ⟨last, ⟨.name id, span⟩ :: rest⟩ "-" = false := by
    simp [Cursor.sees, Cursor.peek]
  have hconstant : constant? id = none := by
    simp only [taken, List.mem_cons, not_or] at hid
    simp [constant?, hid]
  rw [signed, hminus, if_neg Bool.false_ne_true, primary]
  simp only [Cursor.peek, Cursor.advance, Cursor.span, List.head?_cons, Option.map_some, hconstant]

theorem length_dottedTokens (spot : Spot) (later : List Name) :
    (dottedTokens spot later).length = 2 * later.length := by
  induction later generalizing spot with
  | nil => rfl
  | cons n later ih =>
      simp only [dottedTokens, List.length_cons, ih]
      omega

/-- The tokens of a placeholder are those of a path on the line of its first name. -/
theorem parse?_placeholder (p : Placeholder) (opening : Span) (spot : Spot) :
    ∃ e, parse? ⟨opening, p.tokens spot⟩ = some e ∧
      e.IsPath (spot.after p.before).line p.path := by
  obtain ⟨c, hc⟩ : ∃ c, c = (⟨opening, p.tokens spot⟩ : Cursor) := ⟨_, rfl⟩
  have hfuel : fuelFor c = 32 * p.later.length + 17 + 3 + 12 := by
    rw [hc]
    simp only [fuelFor, Placeholder.tokens, List.length_cons, length_dottedTokens]
    omega
  have hnot : c.seesName "not" = false := by
    have hid := p.first_free
    simp only [taken, List.mem_cons, not_or] at hid
    simp [hc, Placeholder.tokens, Cursor.seesName, Cursor.peek, hid]
  have hfirst : ∀ stop, (Expr.name p.first.text ⟨spot.after p.before, stop⟩).IsPath
      (spot.after p.before).line [p.first.text] := fun _ => .name rfl
  have hlater : p.later.length < 32 * p.later.length + 17 + 2 := by omega
  obtain ⟨path, stop, hlookups, hpath⟩ := lookups_dotted (hfirst _) p.later hlater _ _ _
  have hunary : unary (32 * p.later.length + 17 + 3) c = some (path, ⟨stop, []⟩) := by
    rw [unary, hc]
    unfold Placeholder.tokens
    rw [signed_name p.first_free]
    dsimp only
    rw [hlookups]
    dsimp only
    rw [filters]
    rfl
  refine ⟨path, ?_, hpath⟩
  rw [← hc, parse?, hfuel, expression_of_unary hnot hunary]
  rfl

end Reading

end Expr

/-! ## The value of a path -/

namespace Datum

/-- What a path of names leads to. -/
def through? : List String → Datum → Option Datum
  | [], d => some d
  | id :: rest, d => (d.member? id).bind (through? rest)

theorem through?_concat (names : List String) (id : String) (d : Datum) :
    through? (names ++ [id]) d = (through? names d).bind fun e => e.member? id := by
  induction names generalizing d with
  | nil =>
      rw [List.nil_append, through?]
      simp [through?]
  | cons first rest ih =>
      rw [List.cons_append, through?, through?, Option.bind_assoc]
      exact Option.bind_congr fun e _ => ih e

end Datum

theorem Fault.exists_of (site : Site) :
    ∃ span detail, Fault.of site = .undefined span site.line detail := by
  unfold of within
  dsimp only
  split
  · exact ⟨_, _, rfl⟩
  · exact ⟨_, _, rfl⟩

namespace Expr

variable {line : Nat} {names : List String} {e : Expr} {s : Scope}

/-- How an expression on a line answers for something that is there, or not. -/
inductive Answers (line : Nat) : Option Datum → Except Fault Datum → Prop where
  | found (d : Datum) : Answers line (some d) (.ok d)
  | missing : Answers line none (.ok (.undefined false))
  | blamed (span : Option Span) (detail : Option String) :
      Answers line none (.error (.undefined span line detail))

/-- A look-up that finds nothing. -/
theorem answers_missing (base : Datum) (site : Site) :
    Answers site.line none (Template.missing base site) := by
  unfold Template.missing
  split
  · obtain ⟨span, detail, hfault⟩ := Fault.exists_of site
    rw [hfault]
    exact .blamed span detail
  · exact .missing

/-- A look-up has the value that is found, else what a look-up makes of nothing. -/
theorem eval_member (base : Expr) (id : String) (site : Site) (around : Option Span) :
    (Expr.member base id site).eval s around =
      (base.eval s (some site.span)).bind fun d =>
        ((d.member? id).map Except.ok).getD (Template.missing d site) := by
  rw [eval]
  refine congrArg (Except.bind _) (funext fun d => ?_)
  cases d.member? id with
  | none => rfl
  | some value => rfl

/-- A path answers with what it leads to among the parameters. -/
theorem IsPath.answers (h : e.IsPath line names) (hframes : s.frames = [[]])
    (around : Option Span) :
    Answers line (Datum.through? names s.parameters) (e.eval s around) := by
  induction h generalizing around with
  | @name id span on_line =>
      have hlookup : s.lookup id = (s.parameters.member? id).getD (.undefined false) := by
        unfold Scope.lookup
        rw [hframes]
        rfl
      rw [eval, hlookup]
      unfold Datum.through?
      cases s.parameters.member? id with
      | none => exact .missing
      | some d => exact .found d
  | @member names base id site base_path on_line ih =>
      subst on_line
      have hbase := ih (some site.span)
      rw [eval_member, Datum.through?_concat]
      -- what the look-up makes depends on the answer of its base only
      generalize Datum.through? names s.parameters = value? at hbase ⊢
      generalize base.eval s (some site.span) = outcome at hbase ⊢
      cases hbase with
      | found d =>
          have hmissing := answers_missing d site
          change Answers site.line (d.member? id)
            (((d.member? id).map Except.ok).getD (Template.missing d site))
          cases d.member? id with
          | none => exact hmissing
          | some value => exact .found value
      | missing => exact answers_missing (.undefined false) site
      | blamed span detail => exact .blamed span detail

/-- A path that leads to something defined is printed as that. -/
theorem IsPath.print_of_some (h : e.IsPath line names) (hframes : s.frames = [[]]) {d : Datum}
    (hd : d.isUndefined = false) (hnames : Datum.through? names s.parameters = some d) :
    e.print s = .ok d.shown := by
  have hanswers := h.answers hframes (some e.site.span)
  rw [hnames] at hanswers
  unfold print value
  generalize e.eval s (some e.site.span) = outcome at hanswers ⊢
  cases hanswers
  cases d with
  | undefined quiet => cases hd
  | none => rfl
  | bool b => rfl
  | int i => rfl
  | float x => rfl
  | string text => rfl
  | list items => rfl
  | map entries => rfl

/-- A path that leads to nothing is not printed, and its line is blamed. -/
theorem IsPath.print_of_none (h : e.IsPath line names) (hframes : s.frames = [[]])
    (hnames : Datum.through? names s.parameters = none) :
    ∃ span detail, e.print s = .error (.undefined span line detail) := by
  have hanswers := h.answers hframes (some e.site.span)
  have hsite := h.site_line
  rw [hnames] at hanswers
  unfold print value
  generalize e.eval s (some e.site.span) = outcome at hanswers ⊢
  cases hanswers with
  | missing =>
      obtain ⟨span, detail, hfault⟩ := Fault.exists_of e.site
      rw [hsite] at hfault
      exact ⟨span, detail, congrArg Except.error hfault⟩
  | blamed span detail => exact ⟨span, detail, rfl⟩

end Expr

end DataCatalog.Template
