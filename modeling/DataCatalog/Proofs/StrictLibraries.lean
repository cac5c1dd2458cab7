import DataCatalog.Document.WellFormed
import DataCatalog.Proofs.Placeholders
import DataCatalog.Template.Renderer

/-!
# Libraries with strict semantics

What a library is documented to do is stated one look-up and one placeholder at a time.
`Library.DataSemantics` says what is under a name, and `Library.StrictSemantics` what comes of a
form under strict settings: a form without placeholders is its text, and the first placeholder of a
form is printed before the rest of it, or fails.

Main statements: `Library.DataSemantics.follow_of_some` and `follow_of_none` say where a path of
names leads, and `Library.StrictSemantics.render_of_filled` and `render_of_missing` what a library
makes of a whole form.
-/

set_option autoImplicit false

namespace DataCatalog

/-! ## Paths in trees -/

namespace Tree

/-- No value in a tree is tagged. -/
inductive Untagged : Tree → Prop where
  | null : Untagged .null
  | bool (b : Bool) : Untagged (.bool b)
  | int (i : Int) : Untagged (.int i)
  | float (x : Binary64) : Untagged (.float x)
  | string (s : String) : Untagged (.string s)
  | seq {items : List Tree} (items_untagged : ∀ t ∈ items, Untagged t) : Untagged (.seq items)
  | map {entries : List (Tree × Tree)} (values_untagged : ∀ entry ∈ entries, Untagged entry.2) :
      Untagged (.map entries)

theorem mem_of_get? {key value : Tree} {entries : List (Tree × Tree)}
    (h : get? key entries = some value) : ∃ k, (k, value) ∈ entries := by
  induction entries with
  | nil => cases h
  | cons entry rest ih =>
      obtain ⟨k, v⟩ := entry
      rw [get?] at h
      split at h
      · cases h
        exact ⟨k, List.mem_cons_self⟩
      · obtain ⟨k', hmem⟩ := ih h
        exact ⟨k', List.mem_cons_of_mem _ hmem⟩

theorem WellFormed.of_get? {key value : Tree} {entries : List (Tree × Tree)}
    (wf : (Tree.map entries).WellFormed) (h : get? key entries = some value) :
    value.WellFormed := by
  obtain ⟨k, hmem⟩ := mem_of_get? h
  cases wf with
  | map _ values_wf _ => exact values_wf _ hmem

theorem Untagged.of_get? {key value : Tree} {entries : List (Tree × Tree)}
    (untagged : (Tree.map entries).Untagged) (h : get? key entries = some value) :
    value.Untagged := by
  obtain ⟨k, hmem⟩ := mem_of_get? h
  cases untagged with
  | map values_untagged => exact values_untagged _ hmem

/-- What a path of names leads to, through mappings one in the other. -/
def through? : List String → Tree → Option Tree
  | [], t => some t
  | name :: rest, .map entries => (get? (.string name) entries).bind (through? rest)
  | _ :: _, _ => none

end Tree

namespace Template

open DataCatalog.Tree (get?)

namespace Library

variable (lib : Library)

/-- The text that is printed for a parameter; a text is printed as it is. -/
def printed : Tree → String
  | .string s => s
  | t => lib.display (lib.ofParameter t)

/-- What a path of names leads to from a value. -/
def follow : List String → lib.Value → Except LibraryError lib.Value
  | [], v => .ok v
  | name :: rest, v => (lib.member v name).bind (follow rest)

/-! ## What is under a name -/

/-- What a library says of parameters.  The members of a mapping are its entries; all else that is
looked up in a parameter is undefined, and nothing can be looked up in that. -/
structure DataSemantics : Prop where
  defined : ∀ t, lib.isUndefined (lib.ofParameter t) = false
  member_entry : ∀ {entries : List (Tree × Tree)} {name : String} {v : Tree},
    (Tree.map entries).WellFormed → (Tree.map entries).Untagged →
    get? (.string name) entries = some v →
    lib.member (lib.ofParameter (.map entries)) name = .ok (lib.ofParameter v)
  member_missing : ∀ {entries : List (Tree × Tree)} {name : String},
    (Tree.map entries).WellFormed → (Tree.map entries).Untagged →
    get? (.string name) entries = none →
    ∃ u, lib.member (lib.ofParameter (.map entries)) name = .ok u ∧ lib.isUndefined u = true
  member_other : ∀ {t : Tree}, t.Untagged → (∀ entries, t ≠ .map entries) → ∀ name,
    ∃ u, lib.member (lib.ofParameter t) name = .ok u ∧ lib.isUndefined u = true
  member_undefined : ∀ {u : lib.Value}, lib.isUndefined u = true → ∀ name,
    ∃ e, lib.member u name = .error e ∧ e.kind = .undefined
  display_string : ∀ s, lib.display (lib.ofParameter (.string s)) = s

/-- A path that leads to something undefined, or looks into it on the way. -/
def Misses (names : List String) (v : lib.Value) : Prop :=
  (∃ u, lib.follow names v = .ok u ∧ lib.isUndefined u = true) ∨
    ∃ e, lib.follow names v = .error e ∧ e.kind = .undefined

variable {lib}

theorem follow_cons_of_ok {v w : lib.Value} {name : String} (h : lib.member v name = .ok w)
    (rest : List String) : lib.follow (name :: rest) v = lib.follow rest w := by
  rw [follow, h]
  rfl

theorem follow_cons_of_error {v : lib.Value} {name : String} {e : LibraryError}
    (h : lib.member v name = .error e) (rest : List String) :
    lib.follow (name :: rest) v = .error e := by
  rw [follow, h]
  rfl

/-- What is missed from a value is missed from one that has the value under a name. -/
theorem Misses.of_member {v w : lib.Value} {name : String} {rest : List String}
    (h : lib.Misses rest w) (hmember : lib.member v name = .ok w) :
    lib.Misses (name :: rest) v := by
  rwa [Misses, follow_cons_of_ok hmember]

namespace DataSemantics

variable (data : lib.DataSemantics)
include data

theorem display_ofParameter (t : Tree) : lib.display (lib.ofParameter t) = lib.printed t := by
  cases t with
  | string s => exact data.display_string s
  | _ => rfl

/-- Every path misses what is undefined. -/
theorem misses_of_undefined {u : lib.Value} (h : lib.isUndefined u = true) (names : List String) :
    lib.Misses names u := by
  cases names with
  | nil => exact .inl ⟨u, rfl, h⟩
  | cons name rest =>
      obtain ⟨e, hmember, hkind⟩ := data.member_undefined h name
      exact .inr ⟨e, follow_cons_of_error hmember rest, hkind⟩

/-- A path leads where it leads in the tree. -/
theorem follow_of_some {t v : Tree} (wf : t.WellFormed) (untagged : t.Untagged)
    {names : List String} (h : Tree.through? names t = some v) :
    lib.follow names (lib.ofParameter t) = .ok (lib.ofParameter v) := by
  induction names generalizing t with
  | nil =>
      cases h
      rfl
  | cons name rest ih =>
      cases t with
      | map entries =>
          obtain ⟨w, hw, hrest⟩ := Option.bind_eq_some_iff.1 h
          rw [follow_cons_of_ok (data.member_entry wf untagged hw)]
          exact ih (wf.of_get? hw) (untagged.of_get? hw) hrest
      | _ => cases h

/-- A path that leads nowhere in the tree misses. -/
theorem follow_of_none {t : Tree} (wf : t.WellFormed) (untagged : t.Untagged)
    {names : List String} (h : Tree.through? names t = none) :
    lib.Misses names (lib.ofParameter t) := by
  induction names generalizing t with
  | nil => cases h
  | cons name rest ih =>
      by_cases hmap : ∃ entries, t = .map entries
      · obtain ⟨entries, rfl⟩ := hmap
        cases hget : get? (.string name) entries with
        | none =>
            obtain ⟨u, hmember, hundefined⟩ := data.member_missing wf untagged hget
            exact (data.misses_of_undefined hundefined rest).of_member hmember
        | some w =>
            have hrest : Tree.through? rest w = none := by
              rw [Tree.through?, hget] at h
              exact h
            apply Misses.of_member _ (data.member_entry wf untagged hget)
            exact ih (wf.of_get? hget) (untagged.of_get? hget) hrest
      · obtain ⟨u, hmember, hundefined⟩ :=
          data.member_other untagged (fun entries heq => hmap ⟨entries, heq⟩) name
        exact (data.misses_of_undefined hundefined rest).of_member hmember

section Inversion

variable {t : Tree} (wf : t.WellFormed) (untagged : t.Untagged) {names : List String}
include wf untagged

/-- Something defined is what the path leads to in the tree. -/
theorem exists_of_follow_defined {v : lib.Value} (h : lib.follow names (lib.ofParameter t) = .ok v)
    (hdefined : lib.isUndefined v = false) :
    ∃ w, Tree.through? names t = some w ∧ v = lib.ofParameter w := by
  cases hnames : Tree.through? names t with
  | some w => exact ⟨w, rfl, Except.ok.inj (h.symm.trans (data.follow_of_some wf untagged hnames))⟩
  | none =>
      obtain ⟨u, hfollow, hundefined⟩ | ⟨e, hfollow, -⟩ := data.follow_of_none wf untagged hnames
      · cases h.symm.trans hfollow
        cases hundefined.symm.trans hdefined
      · cases h.symm.trans hfollow

theorem through?_of_follow_undefined {u : lib.Value}
    (h : lib.follow names (lib.ofParameter t) = .ok u) (hundefined : lib.isUndefined u = true) :
    Tree.through? names t = none := by
  cases hnames : Tree.through? names t with
  | none => rfl
  | some w =>
      cases h.symm.trans (data.follow_of_some wf untagged hnames)
      cases hundefined.symm.trans (data.defined w)

theorem through?_of_follow_error {e : LibraryError}
    (h : lib.follow names (lib.ofParameter t) = .error e) :
    Tree.through? names t = none ∧ e.kind = .undefined := by
  cases hnames : Tree.through? names t with
  | some w => cases h.symm.trans (data.follow_of_some wf untagged hnames)
  | none =>
      obtain ⟨u, hfollow, -⟩ | ⟨e', hfollow, hkind⟩ := data.follow_of_none wf untagged hnames
      · cases h.symm.trans hfollow
      · cases h.symm.trans hfollow
        exact ⟨rfl, hkind⟩

end Inversion

end DataSemantics

end Library

/-! ## One placeholder after the other -/

/-- What becomes of a template after something was printed, from what becomes of the rest of it:
its text comes after what was printed, and its error stands some lines further down. -/
inductive Continues (shown : String) (lines : Nat) :
    (rest whole : Except LibraryError String) → Prop where
  | ok (text : String) : Continues shown lines (.ok text) (.ok (shown ++ text))
  | error {e e' : LibraryError} (kind : e'.kind = e.kind)
      (line : e'.line = e.line.map (lines + ·)) : Continues shown lines (.error e) (.error e')

/-- An error of a kind on a line. -/
inductive FailsOn (kind : ErrorKind) (line : Nat) : Except LibraryError String → Prop where
  | mk {e : LibraryError} (of_kind : e.kind = kind) (on_line : e.line = some line) :
      FailsOn kind line (.error e)

/-- No function has the name with which a placeholder begins. -/
def Settings.Frees (s : Settings) (p : Placeholder) : Prop :=
  ∀ entry ∈ s.functions, entry.1 ≠ p.first.text

/-- The line on which the path of a placeholder begins, after the text before it.  It is the line of
the placeholder itself unless a line break stands between its opening mark and the path. -/
def Field.lineAfter (f : Field) (before : List Char) : Nat :=
  1 + (before ++ f.placeholder.opening).count '\n'

/-- What a library says of forms under strict settings.  A form without placeholders is printed as
it is.  The value of the first placeholder of any other form is printed after the text before it,
and the rest of the form comes next; a value that is undefined, or that cannot be had, is an error
on the line of the path. -/
structure Library.StrictSemantics (lib : Library) : Prop extends lib.DataSemantics where
  render_text : ∀ {settings : Settings} {name : String}, settings.Strict name →
    ∀ {lead : List Char}, OwnOpenings lead [] → ∀ context : lib.Value,
    lib.render settings name (String.ofList lead) context = .ok (String.ofList lead)
  render_defined : ∀ {settings : Settings} {name : String}, settings.Strict name →
    ∀ {lead : List Char} {f : Field} {fields : List Field}, OwnOpenings lead (f :: fields) →
    ∀ {parameters : Tree}, parameters.WellFormed → parameters.Untagged → ∀ {v : lib.Value},
    lib.follow f.placeholder.path (lib.ofParameter parameters) = .ok v →
    lib.isUndefined v = false →
    Continues (String.ofList lead ++ lib.display v) ((lead ++ f.placeholder.source).count '\n')
      (lib.render settings name (String.ofList (f.text ++ sourceOf fields))
        (lib.ofParameter parameters))
      (lib.render settings name (String.ofList (lead ++ sourceOf (f :: fields)))
        (lib.ofParameter parameters))
  render_undefined : ∀ {settings : Settings} {name : String}, settings.Strict name →
    ∀ {lead : List Char} {f : Field} {fields : List Field}, OwnOpenings lead (f :: fields) →
    settings.Frees f.placeholder →
    ∀ {parameters : Tree}, parameters.WellFormed → parameters.Untagged → ∀ {u : lib.Value},
    lib.follow f.placeholder.path (lib.ofParameter parameters) = .ok u →
    lib.isUndefined u = true →
    FailsOn .undefined (f.lineAfter lead)
      (lib.render settings name (String.ofList (lead ++ sourceOf (f :: fields)))
        (lib.ofParameter parameters))
  render_failed : ∀ {settings : Settings} {name : String}, settings.Strict name →
    ∀ {lead : List Char} {f : Field} {fields : List Field}, OwnOpenings lead (f :: fields) →
    settings.Frees f.placeholder →
    ∀ {parameters : Tree}, parameters.WellFormed → parameters.Untagged → ∀ {e : LibraryError},
    lib.follow f.placeholder.path (lib.ofParameter parameters) = .error e →
    FailsOn e.kind (f.lineAfter lead)
      (lib.render settings name (String.ofList (lead ++ sourceOf (f :: fields)))
        (lib.ofParameter parameters))

/-! ## Whole forms -/

namespace Field

/-- What the path of a placeholder leads to. -/
def value? (f : Field) (parameters : Tree) : Option Tree :=
  Tree.through? f.placeholder.path parameters

/-- Placeholders that are replaced by what a library prints for them, with the texts after them. -/
def filled? (lib : Library) (parameters : Tree) : List Field → Option String
  | [] => some ""
  | f :: rest =>
      (f.value? parameters).bind fun v =>
        (filled? lib parameters rest).map fun later =>
          lib.printed v ++ String.ofList f.text ++ later

/-- The placeholders of a form can be filled if each of them leads to something. -/
theorem isSome_filled?_iff (lib : Library) (parameters : Tree) (fields : List Field) :
    (filled? lib parameters fields).isSome = true ↔
      ∀ f ∈ fields, (f.value? parameters).isSome = true := by
  induction fields with
  | nil => simp [filled?]
  | cons f rest ih =>
      rw [List.forall_mem_cons, ← ih, filled?]
      cases f.value? parameters with
      | none => simp
      | some v => simp

/-- Either all placeholders lead to something, or there is a first one that does not. -/
theorem exists_first_missing {parameters : Tree} {fields : List Field}
    (h : ¬∀ f ∈ fields, (f.value? parameters).isSome = true) :
    ∃ front f back, fields = front ++ f :: back ∧
      (∀ g ∈ front, (g.value? parameters).isSome = true) ∧ f.value? parameters = none := by
  induction fields with
  | nil => exact absurd (List.forall_mem_nil _) h
  | cons first rest ih =>
      cases hfirst : first.value? parameters with
      | none => exact ⟨[], first, rest, rfl, List.forall_mem_nil _, hfirst⟩
      | some v =>
          have hsome : (first.value? parameters).isSome = true := by rw [hfirst]; rfl
          obtain ⟨front, f, back, hrest, hfront, hf⟩ :=
            ih fun hall => h (List.forall_mem_cons.2 ⟨hsome, hall⟩)
          exact ⟨first :: front, f, back, by rw [hrest]; rfl,
            List.forall_mem_cons.2 ⟨hsome, hfront⟩, hf⟩

/-- The lines of a form before a placeholder are those of its first part and those of the rest. -/
theorem lineAfter_cons (f g : Field) (lead : List Char) (front : List Field) :
    f.lineAfter (lead ++ sourceOf (g :: front)) =
      (lead ++ g.placeholder.source).count '\n' + f.lineAfter (g.text ++ sourceOf front) := by
  rw [lineAfter, lineAfter, sourceOf_cons]
  simp only [List.count_append]
  omega

end Field

namespace Library.StrictSemantics

variable {lib : Library} (semantics : lib.StrictSemantics) {settings : Settings} {name : String}
  (strict : settings.Strict name) {parameters : Tree} (wf : parameters.WellFormed)
  (untagged : parameters.Untagged) {lead : List Char} {f : Field} {fields : List Field}
include semantics strict wf untagged

/-- A placeholder that leads to something is printed before the rest of the form. -/
theorem continues_of_value? (own : OwnOpenings lead (f :: fields)) {v : Tree}
    (hv : f.value? parameters = some v) :
    Continues (String.ofList lead ++ lib.printed v) ((lead ++ f.placeholder.source).count '\n')
      (lib.render settings name (String.ofList (f.text ++ sourceOf fields))
        (lib.ofParameter parameters))
      (lib.render settings name (String.ofList (lead ++ sourceOf (f :: fields)))
        (lib.ofParameter parameters)) := by
  have hfollow := semantics.follow_of_some wf untagged hv
  rw [← semantics.display_ofParameter v]
  exact semantics.render_defined strict own wf untagged hfollow (semantics.defined v)

/-- A placeholder that leads to nothing is an error on its line. -/
theorem failsOn_of_value? (own : OwnOpenings lead (f :: fields))
    (free : settings.Frees f.placeholder) (hf : f.value? parameters = none) :
    FailsOn .undefined (f.lineAfter lead)
      (lib.render settings name (String.ofList (lead ++ sourceOf (f :: fields)))
        (lib.ofParameter parameters)) := by
  obtain ⟨u, hfollow, hundefined⟩ | ⟨e, hfollow, hkind⟩ :=
    semantics.follow_of_none wf untagged hf
  · exact semantics.render_undefined strict own free wf untagged hfollow hundefined
  · rw [← hkind]
    exact semantics.render_failed strict own free wf untagged hfollow

/-- A form whose placeholders all lead to something is filled with it. -/
theorem render_of_filled (own : OwnOpenings lead fields) {text : String}
    (h : Field.filled? lib parameters fields = some text) :
    lib.render settings name (String.ofList (lead ++ sourceOf fields))
      (lib.ofParameter parameters) = .ok (String.ofList lead ++ text) := by
  induction fields generalizing lead text with
  | nil =>
      cases h
      rw [sourceOf_nil, List.append_nil, String.append_empty]
      exact semantics.render_text strict own _
  | cons f fields ih =>
      rw [Field.filled?] at h
      obtain ⟨v, hv, h⟩ := Option.bind_eq_some_iff.1 h
      obtain ⟨later, hlater, rfl⟩ := Option.map_eq_some_iff.1 h
      have hcontinues := semantics.continues_of_value? strict wf untagged own hv
      rw [ih own.tail hlater] at hcontinues
      generalize lib.render settings name _ _ = whole at hcontinues ⊢
      cases hcontinues
      simp only [String.append_assoc]

/-- The first placeholder of a form that leads to nothing is an error on its line. -/
theorem render_of_missing {front back : List Field}
    (own : OwnOpenings lead (front ++ f :: back))
    (hfront : ∀ g ∈ front, (g.value? parameters).isSome = true)
    (free : settings.Frees f.placeholder) (hf : f.value? parameters = none) :
    FailsOn .undefined (f.lineAfter (lead ++ sourceOf front))
      (lib.render settings name (String.ofList (lead ++ sourceOf (front ++ f :: back)))
        (lib.ofParameter parameters)) := by
  induction front generalizing lead with
  | nil =>
      rw [sourceOf_nil, List.append_nil]
      exact semantics.failsOn_of_value? strict wf untagged own free hf
  | cons g front ih =>
      obtain ⟨hfirst, hlater⟩ := List.forall_mem_cons.1 hfront
      obtain ⟨v, hv⟩ := Option.isSome_iff_exists.1 hfirst
      have hcontinues := semantics.continues_of_value? strict wf untagged own hv
      have hrest := ih own.tail hlater
      rw [f.lineAfter_cons, List.cons_append]
      -- the error of the rest is that of the whole, further down
      generalize lib.render settings name (String.ofList (g.text ++ _)) _ = rest
        at hcontinues hrest
      generalize lib.render settings name _ _ = whole at hcontinues ⊢
      obtain ⟨of_kind, on_line⟩ := hrest
      cases hcontinues with
      | error kind line => exact ⟨kind.trans of_kind, by rw [line, on_line]; rfl⟩

end Library.StrictSemantics

/-! ## What the renderer makes of it -/

namespace Form

/-- A form with its placeholders replaced by what a library prints for them. -/
def filled? (lib : Library) (form : Form) (parameters : Tree) : Option String :=
  (Field.filled? lib parameters form.fields).map fun text => String.ofList form.lead ++ text

/-- What becomes of a form in a file. -/
structure Rendered (lib : Library) (form : Form) (parameters : Tree) (file : String)
    (result : Except TemplateError String) : Prop where
  /-- It has a text if, and only if, every placeholder leads to a value. -/
  succeeds_iff : (∃ text, result = .ok text) ↔
    ∀ f ∈ form.fields, (f.value? parameters).isSome = true
  /-- The text is that of the form, with the values in place of the placeholders. -/
  filled : ∀ text, result = .ok text → form.filled? lib parameters = some text
  /-- Else the line of the first placeholder that leads to nothing is blamed. -/
  fails : (¬∃ text, result = .ok text) → ∃ front f back shown,
    form.fields = front ++ f :: back ∧ (∀ g ∈ front, (g.value? parameters).isSome = true) ∧
      f.value? parameters = none ∧
      result = .error (.unresolved file shown (f.lineAfter (form.lead ++ sourceOf front)))

variable {lib : Library} (form : Form) (environment : String → Option String) (file : String)
  {parameters : List (Tree × Tree)}

/-- The renderer takes over the text of a library. -/
theorem renderer_of_ok {template text : String}
    (h : lib.render (settings environment) file template (lib.ofParameter (.map parameters)) =
      .ok text) :
    renderer lib environment file template parameters = .ok text := by
  rw [renderer, h]
  rfl

/-- The renderer blames the line on which something undefined is used. -/
theorem renderer_of_failsOn {template : String} {line : Nat}
    (h : FailsOn .undefined line
      (lib.render (settings environment) file template (lib.ofParameter (.map parameters)))) :
    ∃ shown, renderer lib environment file template parameters =
      .error (.unresolved file shown line) := by
  unfold renderer
  generalize lib.render _ _ _ _ = outcome at h
  obtain ⟨of_kind, on_line⟩ := h
  rename_i e
  refine ⟨placeholder template.toList e, ?_⟩
  show Except.error (templateError file template e) = _
  unfold templateError
  rw [of_kind, on_line]
  rfl

/-- The only function of the renderer has a name with which no placeholder begins. -/
theorem frees_settings (p : Placeholder) : (settings environment).Frees p := by
  intro entry hmem heq
  obtain rfl := List.mem_singleton.1 hmem
  have htaken : "env" ∈ taken := by decide
  exact p.first_free (heq ▸ htaken)

end Form

end Template

end DataCatalog
