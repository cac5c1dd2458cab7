import DataCatalog.Proofs.Overlay
import DataCatalog.Proofs.PathExpressions
import DataCatalog.Proofs.StrictLibraries

/-!
# Strict templates

A form is rendered if, and only if, the path of each of its placeholders leads through nested
mappings to a parameter.  Its texts are kept, and each placeholder is replaced by the parameter as
it is printed.  This holds for the renderer with every library that has strict semantics, and
`fragment` is one.

Main statements: `Datum.through?_ofTree` says that a path leads to the same in a tree and in what
templates compute with, `strictSemantics_fragment` that the library which is run has strict
semantics, and `Form.rendered` what becomes of every form.
-/

set_option autoImplicit false

namespace DataCatalog

namespace Template

open DataCatalog.Tree (get?)

/-! ## Names among the keys of a mapping -/

namespace Datum

/-- A name is equal to itself only. -/
theorem eq_string_of_order {name : String} {d : Datum}
    (h : order (.string name) d = .eq ∨ order d (.string name) = .eq) : d = .string name := by
  cases d with
  | string s =>
      simp only [order] at h
      rcases h with h | h
      · split_ifs at h with hlt heq
        rw [heq]
      · split_ifs at h with hlt heq
        rw [heq]
  | _ => exact absurd h (by simp only [order, rank]; decide)

theorem order_string_self (name : String) : order (.string name) (.string name) = .eq := by
  simp [order]

theorem find?_cons_self (name : String) (value : Datum) (rest : List (Datum × Datum)) :
    find? (.string name) ((.string name, value) :: rest) = some value := by
  rw [find?, if_pos (order_string_self name)]

theorem find?_cons_of_ne {name : String} {key : Datum} (h : key ≠ .string name) (value : Datum)
    (rest : List (Datum × Datum)) :
    find? (.string name) ((key, value) :: rest) = find? (.string name) rest := by
  rw [find?, if_neg fun heq => h (eq_string_of_order (.inl heq))]

/-- What is put under a name is found there. -/
theorem find?_put_self (name : String) (value : Datum) (entries : List (Datum × Datum)) :
    find? (.string name) (put (.string name) value entries) = some value := by
  induction entries with
  | nil => exact find?_cons_self name value []
  | cons entry rest ih =>
      obtain ⟨k, old⟩ := entry
      unfold put
      cases horder : order (.string name) k with
      | lt => exact find?_cons_self name value _
      | eq =>
          rw [eq_string_of_order (.inl horder)]
          exact find?_cons_self name value rest
      | gt =>
          have hk : k ≠ .string name := by
            rintro rfl
            rw [order_string_self] at horder
            cases horder
          exact (find?_cons_of_ne hk old _).trans ih

/-- What is put elsewhere is not found under a name. -/
theorem find?_put_of_ne {name : String} {key : Datum} (h : key ≠ .string name) (value : Datum)
    (entries : List (Datum × Datum)) :
    find? (.string name) (put key value entries) = find? (.string name) entries := by
  induction entries with
  | nil => exact find?_cons_of_ne h value []
  | cons entry rest ih =>
      obtain ⟨k, old⟩ := entry
      unfold put
      cases horder : order key k with
      | lt => exact find?_cons_of_ne h value _
      | eq =>
          have hk : k ≠ .string name := by
            rintro rfl
            exact h (eq_string_of_order (.inr horder))
          exact (find?_cons_of_ne hk value rest).trans (find?_cons_of_ne hk old rest).symm
      | gt =>
          dsimp only
          rw [find?, find?, ih]

/-- A tree that becomes a text is the text. -/
theorem eq_string_of_ofTree {t : Tree} {name : String} (h : ofTree t = .string name) :
    t = .string name := by
  cases t with
  | string s =>
      cases h
      rfl
  | _ => simp [ofTree, ofEntries] at h

/-- A name is found under the same name as in the mapping. -/
theorem find?_ofTreeEntries {entries : List (Tree × Tree)}
    (distinct : entries.Pairwise fun a b => Tree.same b.1 a.1 = false) (name : String)
    (acc : List (Datum × Datum)) :
    find? (.string name)
        ((ofTreeEntries entries).foldl (fun acc entry => put entry.1 entry.2 acc) acc) =
      ((get? (.string name) entries).map ofTree).or (find? (.string name) acc) := by
  induction entries generalizing acc with
  | nil => rfl
  | cons entry rest ih =>
      obtain ⟨k, v⟩ := entry
      obtain ⟨hnew, hrest⟩ := List.pairwise_cons.1 distinct
      rw [ofTreeEntries, List.foldl_cons, ih hrest]
      dsimp only
      cases hsame : Tree.same (.string name) k with
      | false =>
          have hk : ofTree k ≠ .string name := by
            intro heq
            rw [eq_string_of_ofTree heq, Tree.same, beq_self_eq_true] at hsame
            cases hsame
          rw [Tree.get?, hsame, find?_put_of_ne hk]
          rfl
      | true =>
          obtain rfl := Tree.eq_string_of_same hsame
          -- the key is not among the later ones
          have hnone : (get? (.string name) rest).isSome = false := by
            rw [Tree.isSome_get?, Tree.hasKey, List.any_eq_false]
            intro later hmem heq
            have hlater := hnew later hmem
            rw [Tree.eq_string_of_same heq, Tree.same, beq_self_eq_true] at hlater
            cases hlater
          rw [Option.isSome_eq_false_iff, Option.isNone_iff_eq_none] at hnone
          rw [hnone, Tree.get?, hsame, ofTree, find?_put_self]
          rfl

/-- The members of a mapping are its entries. -/
theorem member?_ofTree {entries : List (Tree × Tree)} (wf : (Tree.map entries).WellFormed)
    (name : String) :
    (ofTree (.map entries)).member? name = (get? (.string name) entries).map ofTree := by
  cases wf with
  | map keys_wf values_wf distinct =>
      rw [ofTree]
      exact (find?_ofTreeEntries distinct name []).trans Option.or_none

/-- What is no mapping has no members. -/
theorem member?_ofTree_of_ne {t : Tree} (untagged : t.Untagged) (h : ∀ entries, t ≠ .map entries)
    (name : String) : (ofTree t).member? name = Option.none := by
  cases untagged with
  | map => exact absurd rfl (h _)
  | _ => rfl

/-- A path leads to the same in a tree and in what templates compute with. -/
theorem through?_ofTree {t : Tree} (wf : t.WellFormed) (untagged : t.Untagged)
    (names : List String) :
    through? names (ofTree t) = (Tree.through? names t).map ofTree := by
  induction names generalizing t with
  | nil => rfl
  | cons name rest ih =>
      cases t with
      | map entries =>
          rw [through?, member?_ofTree wf, Tree.through?]
          cases hget : get? (.string name) entries with
          | none => rfl
          | some v => exact ih (wf.of_get? hget) (untagged.of_get? hget)
      | tagged tag value => cases untagged
      | _ => rfl

theorem isUndefined_ofTree (t : Tree) : (ofTree t).isUndefined = false := by
  cases t <;> rfl

theorem shown_ofTree (t : Tree) : (ofTree t).shown = fragment.printed t := by
  cases t <;> rfl

end Datum

/-! ## The statements of a form -/

/-- Statements that print a text and then placeholders with the texts after them. -/
inductive Prints : Spot → List Char → List Field → List Stmt → Prop where
  | nil (spot : Spot) (lead : List Char) : Prints spot lead [] [.text lead]
  | cons {spot : Spot} {lead : List Char} {f : Field} {fields : List Field} {e : Expr}
      {statements : List Stmt}
      (path : e.IsPath (spot.after (lead ++ f.placeholder.opening)).line f.placeholder.path)
      (later : Prints (spot.after (lead ++ f.placeholder.source)) f.text fields statements) :
      Prints spot lead (f :: fields) (.text lead :: .output e :: statements)

namespace Stmt

/-- The pieces of a form are read as its statements. -/
theorem body?_piecesOf (fields : List Field) {fuel : Nat} (hfuel : 2 * fields.length + 1 < fuel)
    (spot : Spot) (lead : List Char) :
    ∃ statements, body? fuel [] (Piece.piecesOf spot lead fields) = some ⟨statements, none, []⟩ ∧
      Prints spot lead fields statements := by
  induction fields generalizing fuel spot lead with
  | nil =>
      obtain ⟨fuel, rfl⟩ := Nat.exists_eq_add_of_le' (show 2 ≤ fuel by omega)
      exact ⟨_, rfl, .nil spot lead⟩
  | cons f fields ih =>
      rw [List.length_cons] at hfuel
      obtain ⟨fuel, rfl⟩ := Nat.exists_eq_add_of_le' (show 2 ≤ fuel by omega)
      obtain ⟨e, hparse, hpath⟩ := Expr.parse?_placeholder f.placeholder
        ⟨spot.after lead, ((spot.after lead).after ['{', '{']).offset⟩
        ((spot.after lead).after ['{', '{'])
      obtain ⟨statements, hbody, hprints⟩ :=
        ih (show 2 * fields.length + 1 < fuel by omega) (spot.after (lead ++ f.placeholder.source))
          f.text
      refine ⟨.text lead :: .output e :: statements, ?_, .cons ?_ hprints⟩
      · rw [Piece.piecesOf, body?, body?, hparse, ← Spot.after_append, hbody]
        rfl
      · have hopening : lead ++ f.placeholder.opening =
            lead ++ (['{', '{'] ++ f.placeholder.before) := rfl
        rwa [hopening, Spot.after_append, Spot.after_append]

/-- A form is read. -/
theorem parse?_source (form : Form) :
    ∃ statements, parse? form.source = some statements ∧
      Prints ⟨0, 1⟩ form.lead form.fields statements := by
  obtain ⟨statements, hbody, hprints⟩ := body?_piecesOf form.fields
    (show 2 * form.fields.length + 1 < 4 * (2 * form.fields.length + 1 + 1) by omega) ⟨0, 1⟩
    form.lead
  refine ⟨statements, ?_, hprints⟩
  rw [parse?, Piece.scan_source]
  change (body? (4 * ((Piece.piecesOf ⟨0, 1⟩ form.lead form.fields).length + 1)) []
    (Piece.piecesOf ⟨0, 1⟩ form.lead form.fields)).map (·.statements) = some statements
  rw [Piece.length_piecesOf, hbody]
  rfl

end Stmt

/-! ## What is printed -/

section Running

variable {parameters : Tree} {s : Scope} {spot : Spot} {lead : List Char} {fields : List Field}
  {statements : List Stmt}

/-- A statement that gives no names, before other statements. -/
theorem runAll_cons {first : Stmt} {shown : String} (h : first.run s = .ok (shown, s.frames))
    (rest : List Stmt) :
    Stmt.runAll s (first :: rest) =
      (Stmt.runAll s rest).map fun (later, frames) => (shown ++ later, frames) := by
  rw [Stmt.runAll, h]
  change (Stmt.runAll s rest >>= fun (later, frames) => pure (shown ++ later, frames)) =
    (Stmt.runAll s rest).map fun (later, frames) => (shown ++ later, frames)
  cases Stmt.runAll s rest with
  | error fault => rfl
  | ok result => rfl

/-- Nothing is printed after a fault. -/
theorem runAll_cons_error {first : Stmt} {fault : Fault} (h : first.run s = .error fault)
    (rest : List Stmt) : Stmt.runAll s (first :: rest) = .error fault := by
  rw [Stmt.runAll, h]
  rfl

theorem run_text (cs : List Char) : (Stmt.text cs).run s = .ok (String.ofList cs, s.frames) := by
  rw [Stmt.run]

theorem run_output_ok {e : Expr} {shown : String} (h : e.print s = .ok shown) :
    (Stmt.output e).run s = .ok (shown, s.frames) := by
  rw [Stmt.run, h]
  rfl

theorem run_output_error {e : Expr} {fault : Fault} (h : e.print s = .error fault) :
    (Stmt.output e).run s = .error fault := by
  rw [Stmt.run, h]
  rfl

/-- The placeholder of a field, as it is printed. -/
theorem print_of_value? {f : Field} {e : Expr} {line : Nat} (h : e.IsPath line f.placeholder.path)
    (wf : parameters.WellFormed) (untagged : parameters.Untagged)
    (hparameters : s.parameters = .ofTree parameters) (hframes : s.frames = [[]]) {v : Tree}
    (hv : f.value? parameters = some v) : e.print s = .ok (fragment.printed v) := by
  have hnames : Datum.through? f.placeholder.path s.parameters = some (.ofTree v) := by
    rw [hparameters, Datum.through?_ofTree wf untagged, ← Field.value?, hv]
    rfl
  rw [h.print_of_some hframes (Datum.isUndefined_ofTree v) hnames, Datum.shown_ofTree]

/-- Statements print what fills the form. -/
theorem Prints.runAll_of_filled (h : Prints spot lead fields statements)
    (wf : parameters.WellFormed) (untagged : parameters.Untagged)
    (hparameters : s.parameters = .ofTree parameters) (hframes : s.frames = [[]]) {text : String}
    (hfilled : Field.filled? fragment parameters fields = some text) :
    Stmt.runAll s statements = .ok (String.ofList lead ++ text, s.frames) := by
  induction h generalizing text with
  | nil spot lead =>
      cases hfilled
      rw [runAll_cons (run_text lead)]
      rfl
  | @cons spot lead f fields e statements path later ih =>
      rw [Field.filled?] at hfilled
      obtain ⟨v, hv, hfilled⟩ := Option.bind_eq_some_iff.1 hfilled
      obtain ⟨rest, hrest, rfl⟩ := Option.map_eq_some_iff.1 hfilled
      have hprint := print_of_value? path wf untagged hparameters hframes hv
      rw [runAll_cons (run_text lead), runAll_cons (run_output_ok hprint), ih hrest]
      simp [Except.map, String.append_assoc]

/-- The line of the first placeholder that leads to nothing is blamed. -/
theorem Prints.runAll_of_missing (h : Prints spot lead fields statements)
    (wf : parameters.WellFormed) (untagged : parameters.Untagged)
    (hparameters : s.parameters = .ofTree parameters) (hframes : s.frames = [[]])
    {front back : List Field} {f : Field} (hfields : fields = front ++ f :: back)
    (hfront : ∀ g ∈ front, (g.value? parameters).isSome = true)
    (hf : f.value? parameters = none) :
    ∃ span detail, Stmt.runAll s statements = .error (.undefined span
      (spot.after (lead ++ (sourceOf front ++ f.placeholder.opening))).line detail) := by
  induction h generalizing front with
  | nil spot lead => simp at hfields
  | @cons spot lead g fields e statements path later ih =>
      rw [runAll_cons (run_text lead)]
      cases front with
      | nil =>
          obtain ⟨rfl, rfl⟩ := List.cons.inj hfields
          have hnames : Datum.through? g.placeholder.path s.parameters = none := by
            rw [hparameters, Datum.through?_ofTree wf untagged, ← Field.value?, hf]
            rfl
          obtain ⟨span, detail, hprint⟩ := path.print_of_none hframes hnames
          rw [runAll_cons_error (run_output_error hprint)]
          exact ⟨span, detail, rfl⟩
      | cons first front =>
          obtain ⟨rfl, hrest⟩ := List.cons.inj hfields
          obtain ⟨hfirst, hlater⟩ := List.forall_mem_cons.1 hfront
          obtain ⟨v, hv⟩ := Option.isSome_iff_exists.1 hfirst
          obtain ⟨span, detail, hrun⟩ := ih hrest hlater
          have hsource : lead ++ (sourceOf (g :: front) ++ f.placeholder.opening) =
              (lead ++ g.placeholder.source) ++
                (g.text ++ (sourceOf front ++ f.placeholder.opening)) := by
            simp only [sourceOf_cons, List.append_assoc]
          have hprint := print_of_value? path wf untagged hparameters hframes hv
          rw [← Spot.after_append, ← hsource] at hrun
          rw [runAll_cons (run_output_ok hprint), hrun]
          exact ⟨span, detail, rfl⟩

end Running

/-! ## The library that is run -/

/-- What is looked up in a parameter. -/
theorem Datum.lookUp_ofTree (t : Tree) (name : String) :
    (ofTree t).lookUp name = .ok (((ofTree t).member? name).getD (.undefined false)) := by
  unfold lookUp
  rw [isUndefined_ofTree, if_neg Bool.false_ne_true]

theorem dataSemantics_fragment : fragment.DataSemantics where
  defined := Datum.isUndefined_ofTree
  member_entry {entries name v} wf _ hget := by
    have hlookUp := Datum.lookUp_ofTree (.map entries) name
    rwa [Datum.member?_ofTree wf, hget] at hlookUp
  member_missing {entries name} wf _ hget := by
    have hlookUp := Datum.lookUp_ofTree (.map entries) name
    rw [Datum.member?_ofTree wf, hget] at hlookUp
    exact ⟨.undefined false, hlookUp, rfl⟩
  member_other {t} untagged hother name := by
    have hlookUp := Datum.lookUp_ofTree t name
    rw [Datum.member?_ofTree_of_ne untagged hother] at hlookUp
    exact ⟨.undefined false, hlookUp, rfl⟩
  member_undefined hundefined _ := ⟨_, if_pos hundefined, rfl⟩
  display_string _ := rfl

section Rendering

variable {settings : Settings} {name : String} (strict : settings.Strict name) {parameters : Tree}
  (wf : parameters.WellFormed) (untagged : parameters.Untagged) {lead : List Char}
  {fields : List Field}
include strict

/-- A template that is read is run on the parameters, with no names given yet. -/
theorem renderStrict_of_run {template : List Char} {statements : List Stmt} {context : Datum}
    {outcome : Except Fault (String × List Frame)} (hparse : Stmt.parse? template = some statements)
    (hrun : Stmt.runAll ⟨settings.functions, context, [[]]⟩ statements = outcome) :
    renderStrict settings name (String.ofList template) context =
      (outcome.map Prod.fst).mapError (Fault.report template) := by
  unfold renderStrict Stmt.rendered
  rw [if_pos strict, String.toList_ofList, hparse]
  dsimp only
  rw [hrun]

theorem renderStrict_text (own : OwnOpenings lead []) (context : Datum) :
    renderStrict settings name (String.ofList lead) context = .ok (String.ofList lead) := by
  obtain ⟨statements, hparse, hprints⟩ := Stmt.parse?_source ⟨lead, [], own⟩
  cases hprints
  have hrun := runAll_cons (s := ⟨settings.functions, context, [[]]⟩) (run_text lead) []
  have hrender := renderStrict_of_run strict hparse hrun
  rw [Form.source, sourceOf_nil, List.append_nil, Stmt.runAll] at hrender
  exact hrender.trans (congrArg Except.ok String.append_empty)

include wf untagged

theorem renderStrict_of_filled (own : OwnOpenings lead fields) {text : String}
    (h : Field.filled? fragment parameters fields = some text) :
    renderStrict settings name (String.ofList (lead ++ sourceOf fields)) (.ofTree parameters) =
      .ok (String.ofList lead ++ text) := by
  obtain ⟨statements, hparse, hprints⟩ := Stmt.parse?_source ⟨lead, fields, own⟩
  have hrun := hprints.runAll_of_filled
    (s := ⟨settings.functions, .ofTree parameters, [[]]⟩) wf untagged rfl rfl h
  exact renderStrict_of_run strict hparse hrun

theorem renderStrict_of_missing (front : List Field) {back : List Field} {f : Field}
    (own : OwnOpenings lead (front ++ f :: back))
    (hfront : ∀ g ∈ front, (g.value? parameters).isSome = true)
    (hf : f.value? parameters = none) :
    FailsOn .undefined (f.lineAfter (lead ++ sourceOf front))
      (renderStrict settings name (String.ofList (lead ++ sourceOf (front ++ f :: back)))
        (.ofTree parameters)) := by
  obtain ⟨statements, hparse, hprints⟩ := Stmt.parse?_source ⟨lead, front ++ f :: back, own⟩
  obtain ⟨span, detail, hrun⟩ := hprints.runAll_of_missing
    (s := ⟨settings.functions, .ofTree parameters, [[]]⟩) wf untagged rfl rfl rfl hfront hf
  have hrender := renderStrict_of_run strict hparse hrun
  rw [← List.append_assoc] at hrender
  exact hrender ▸ .mk rfl rfl

theorem renderStrict_of_first_missing {f : Field} (own : OwnOpenings lead (f :: fields))
    (hf : f.value? parameters = none) :
    FailsOn .undefined (f.lineAfter lead)
      (renderStrict settings name (String.ofList (lead ++ sourceOf (f :: fields)))
        (.ofTree parameters)) := by
  have hfails :=
    renderStrict_of_missing strict wf untagged [] own (List.forall_mem_nil _) hf
  rwa [sourceOf_nil, List.append_nil] at hfails

/-- The first placeholder of a form is printed before the rest of it. -/
theorem renderStrict_continues {f : Field} (own : OwnOpenings lead (f :: fields)) {v : Tree}
    (hv : f.value? parameters = some v) :
    Continues (String.ofList lead ++ fragment.printed v)
      ((lead ++ f.placeholder.source).count '\n')
      (renderStrict settings name (String.ofList (f.text ++ sourceOf fields))
        (.ofTree parameters))
      (renderStrict settings name (String.ofList (lead ++ sourceOf (f :: fields)))
        (.ofTree parameters)) := by
  by_cases hall : ∀ g ∈ fields, (g.value? parameters).isSome = true
  · obtain ⟨later, hlater⟩ :=
      Option.isSome_iff_exists.1 ((Field.isSome_filled?_iff fragment _ fields).2 hall)
    have hwhole : Field.filled? fragment parameters (f :: fields) =
        some (fragment.printed v ++ String.ofList f.text ++ later) := by
      rw [Field.filled?, hv, hlater]
      rfl
    rw [renderStrict_of_filled strict wf untagged own.tail hlater,
      renderStrict_of_filled strict wf untagged own hwhole, String.append_assoc,
      ← String.append_assoc]
    exact .ok _
  · obtain ⟨front, g, back, rfl, hfront, hg⟩ := Field.exists_first_missing hall
    have hfirst : (f.value? parameters).isSome = true := by
      rw [hv]
      rfl
    have hrest := renderStrict_of_missing strict wf untagged front own.tail hfront hg
    have hwhole := renderStrict_of_missing strict wf untagged (f :: front) own
      (List.forall_mem_cons.2 ⟨hfirst, hfront⟩) hg
    rw [g.lineAfter_cons] at hwhole
    rw [List.cons_append] at hwhole
    -- both stop at the same placeholder
    generalize renderStrict settings name (String.ofList (f.text ++ _)) _ = rest at hrest ⊢
    generalize renderStrict settings name _ _ = whole at hwhole ⊢
    obtain ⟨of_kind, on_line⟩ := hrest
    obtain ⟨of_kind', on_line'⟩ := hwhole
    exact .error (of_kind'.trans of_kind.symm) (by rw [on_line, on_line']; rfl)

end Rendering

/-- The library that is run has strict semantics. -/
theorem strictSemantics_fragment : fragment.StrictSemantics where
  toDataSemantics := dataSemantics_fragment
  render_text strict _ own context := renderStrict_text strict own context
  render_defined strict _ f _ own _ wf untagged v hfollow hdefined := by
    obtain ⟨t, hvalue, rfl⟩ :=
      dataSemantics_fragment.exists_of_follow_defined wf untagged hfollow hdefined
    rw [dataSemantics_fragment.display_ofParameter]
    exact renderStrict_continues strict wf untagged own hvalue
  render_undefined strict _ f _ own _ _ wf untagged u hfollow hundefined := by
    have hvalue :=
      dataSemantics_fragment.through?_of_follow_undefined wf untagged hfollow hundefined
    exact renderStrict_of_first_missing strict wf untagged own hvalue
  render_failed strict _ f _ own _ _ wf untagged e hfollow := by
    obtain ⟨hvalue, hkind⟩ := dataSemantics_fragment.through?_of_follow_error wf untagged hfollow
    rw [hkind]
    exact renderStrict_of_first_missing strict wf untagged own hvalue

/-! ## Every form -/

namespace Form

/-- Every form, with all parameters that are not tagged, and with every library that has strict
semantics.  What is blamed is the line of the first placeholder that leads to nothing; if a line
break stands after its opening mark, this is the line on which its path begins. -/
theorem rendered {lib : Library} (semantics : lib.StrictSemantics) (form : Form)
    (environment : String → Option String) (file : String) {parameters : List (Tree × Tree)}
    (wf : (Tree.map parameters).WellFormed) (untagged : (Tree.map parameters).Untagged) :
    form.Rendered lib (.map parameters) file
      (renderer lib environment file (String.ofList form.source) parameters) := by
  have strict := strict_settings environment file
  by_cases hall : ∀ f ∈ form.fields, (f.value? (.map parameters)).isSome = true
  · obtain ⟨later, hlater⟩ :=
      Option.isSome_iff_exists.1 ((Field.isSome_filled?_iff lib _ form.fields).2 hall)
    have hrender := renderer_of_ok environment file
      (semantics.render_of_filled strict wf untagged form.own_openings hlater)
    refine ⟨⟨fun _ => hall, fun _ => ⟨_, hrender⟩⟩, ?_, fun hnone => absurd ⟨_, hrender⟩ hnone⟩
    intro text htext
    have hsame := Except.ok.inj (hrender.symm.trans htext)
    unfold filled?
    rw [hlater, ← hsame]
    rfl
  · obtain ⟨front, f, back, hfields, hfront, hf⟩ := Field.exists_first_missing hall
    have hfails := semantics.render_of_missing strict wf untagged
      (hfields ▸ form.own_openings) hfront (frees_settings environment f.placeholder) hf
    rw [← hfields] at hfails
    obtain ⟨shown, hrender⟩ := renderer_of_failsOn environment file hfails
    have hnone : ¬∃ text, renderer lib environment file (String.ofList form.source) parameters =
        .ok text := by
      rintro ⟨text, htext⟩
      cases hrender.symm.trans htext
    refine ⟨⟨fun hsome => absurd hsome hnone, fun h => absurd h hall⟩, ?_, ?_⟩
    · exact fun text htext => absurd ⟨text, htext⟩ hnone
    · exact fun _ => ⟨front, f, back, shown, hfields, hfront, hf, hrender⟩

/-- Two paths into one mapping, with a colon between them and a line end after them. -/
def address : Form where
  lead := "url: ".toList
  fields := [
    ⟨.spaced ⟨"db".toList, by decide⟩ [⟨"host".toList, by decide⟩] (by decide), [':']⟩,
    ⟨.spaced ⟨"db".toList, by decide⟩ [⟨"port".toList, by decide⟩] (by decide), ['\n']⟩]
  own_openings := by decide +kernel

/-- A mapping in which both paths of `address` lead to something. -/
def server : List (Tree × Tree) :=
  [(.string "host", .string "localhost"), (.string "port", .int 5432)]

theorem wellFormed_server : (Tree.map [(.string "db", .map server)]).WellFormed := by
  have hserver : (Tree.map server).WellFormed := by
    refine .map ?_ ?_ (by decide)
    · exact List.forall_mem_cons.2 ⟨.string _, List.forall_mem_singleton.2 (.string _)⟩
    · exact List.forall_mem_cons.2 ⟨.string _, List.forall_mem_singleton.2 (.int _)⟩
  exact .map (List.forall_mem_singleton.2 (.string _)) (List.forall_mem_singleton.2 hserver)
    (List.pairwise_singleton _ _)

theorem untagged_server : (Tree.map [(.string "db", .map server)]).Untagged := by
  have hserver : (Tree.map server).Untagged :=
    .map (List.forall_mem_cons.2 ⟨.string _, List.forall_mem_singleton.2 (.int _)⟩)
  exact .map (List.forall_mem_singleton.2 hserver)

theorem rendered_address :
    String.ofList address.source =
        "url: \x7b\x7b db.host \x7d\x7d:\x7b\x7b db.port \x7d\x7d\n" ∧
      address.filled? fragment (.map [(.string "db", .map server)]) =
        some "url: localhost:5432\n" ∧
      address.Rendered fragment (.map [(.string "db", .map server)]) "catalog.yaml"
        (render (fun _ => none) "catalog.yaml" (String.ofList address.source)
          [(.string "db", .map server)]) :=
  ⟨by decide +kernel, by decide +kernel,
    rendered strictSemantics_fragment address (fun _ => none) "catalog.yaml" wellFormed_server
      untagged_server⟩

end Form

end Template

end DataCatalog
