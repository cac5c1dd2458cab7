import DataCatalog.Error
import DataCatalog.Proofs.AskedArguments
import DataCatalog.Proofs.ReferenceForm

/-!
# What is found under a reference

A registry is built by registrations under written references, and the last one under a reference
counts.  Where nothing is registered, what is said depends on the module of the reference: it is
known when it begins the path of some registered reference, identifier by identifier.

Main statement: `resolve_classified` says for every text which of the answers is given, and that
later registrations under other references change none of them but that an unknown module may
become known.
-/

set_option autoImplicit false

namespace DataCatalog

namespace Registry

open Reference (Parts)

variable {m : Type → Type}

/-! ## Registrations -/

theorem registerAll_append (r : Registry m) (first second : List (String × Callable m)) :
    r.registerAll (first ++ second) = (r.registerAll first).registerAll second :=
  List.foldl_append

theorem get?_registerAll_of_absent (r : Registry m) {added : List (String × Callable m)}
    {reference : String} (h : ∀ entry ∈ added, entry.1 ≠ reference) :
    (r.registerAll added).callables.get? reference = r.callables.get? reference := by
  induction added generalizing r with
  | nil => rfl
  | cons head rest ih =>
      have hrest := ih (r.register head.1 head.2) fun entry hmem =>
        h entry (List.mem_cons_of_mem _ hmem)
      refine hrest.trans ?_
      show (r.callables.insert head.1 head.2).get? reference = _
      rw [Dict.get?_insert, if_neg (h head List.mem_cons_self)]

/-- The registry after registrations under written references, one after the other. -/
def ofRegistrations (added : List (Parts × Callable m)) : Registry m :=
  empty.registerAll (added.map fun entry => (entry.1.text, entry.2))

/-- The last registration under a reference counts. -/
theorem get?_ofRegistrations_of_last {before later : List (Parts × Callable m)} {parts : Parts}
    {callable : Callable m} (h : ∀ entry ∈ later, entry.1.text ≠ parts.text) :
    (ofRegistrations (before ++ (parts, callable) :: later)).callables.get? parts.text =
      some callable := by
  unfold ofRegistrations
  rw [List.map_append, List.map_cons, List.append_cons, registerAll_append,
    get?_registerAll_of_absent _ (List.forall_mem_map.2 h), registerAll_append]
  show (Dict.insert _ parts.text callable).get? parts.text = some callable
  rw [Dict.get?_insert, if_pos rfl]

/-- Later registrations under other references do not matter. -/
theorem get?_ofRegistrations_append (added : List (Parts × Callable m))
    {more : List (Parts × Callable m)} {reference : String}
    (h : ∀ entry ∈ more, entry.1.text ≠ reference) :
    (ofRegistrations (added ++ more)).callables.get? reference =
      (ofRegistrations added).callables.get? reference := by
  unfold ofRegistrations
  rw [List.map_append, registerAll_append,
    get?_registerAll_of_absent _ (List.forall_mem_map.2 h)]

theorem get?_ofRegistrations_of_absent {added : List (Parts × Callable m)} {reference : String}
    (h : ∀ entry ∈ added, entry.1.text ≠ reference) :
    (ofRegistrations added).callables.get? reference = none :=
  get?_ofRegistrations_append [] h

theorem mem_references_ofRegistrations {added : List (Parts × Callable m)} {reference : String} :
    reference ∈ (ofRegistrations added).references ↔
      ∃ entry ∈ added, entry.1.text = reference := by
  unfold references Dict.keys ofRegistrations
  rw [entries_registerAll, ← Entries.has_iff_mem_keys]
  show Entries.has reference (Entries.ofList _) = true ↔ _
  rw [Entries.has_ofList, Entries.has_iff_mem_keys]
  simp [Entries.keys]

/-- A module is known when the path of a registered reference begins with its identifiers. -/
theorem knowsModule_iff {added : List (Parts × Callable m)} {parts : Parts}
    (h : parts.owner ≠ []) :
    (ofRegistrations added).knowsModule parts.ownerText = true ↔
      ∃ entry ∈ added, parts.owner <+: entry.1.path := by
  unfold knowsModule
  rw [List.any_eq_true]
  constructor
  · rintro ⟨reference, hmem, hlies⟩
    obtain ⟨entry, hentry, rfl⟩ := mem_references_ofRegistrations.1 hmem
    exact ⟨entry, hentry, (entry.1.liesIn_iff h parts.identifiers_owner).1 hlies⟩
  · rintro ⟨entry, hentry, hbegins⟩
    refine ⟨entry.1.text, mem_references_ofRegistrations.2 ⟨entry, hentry, rfl⟩, ?_⟩
    exact (entry.1.liesIn_iff h parts.identifiers_owner).2 hbegins

/-! ## Resolving -/

theorem resolve_of_not_isReference (r : Registry m) {reference : String}
    (h : ¬∃ parts : Parts, parts.text = reference) :
    r.resolve reference =
      .error (.malformed reference (1 < Text.occurrences ':' reference)) := by
  rw [← Reference.isReference_iff] at h
  unfold resolve
  rw [if_neg h]

theorem resolve_of_registered {r : Registry m} {parts : Parts} {callable : Callable m}
    (h : r.callables.get? parts.text = some callable) : r.resolve parts.text = .ok callable := by
  unfold resolve
  rw [if_pos parts.isReference_text, h]

theorem resolve_of_unregistered {r : Registry m} {parts : Parts}
    (h : r.callables.get? parts.text = none) :
    r.resolve parts.text =
      if parts.owner = [] then .error (.unknownAttribute parts.text none parts.lastText)
      else if r.knowsModule parts.ownerText then
        .error (.unknownAttribute parts.text (some parts.ownerText) parts.lastText)
      else .error (.unknownModule parts.text parts.ownerText) := by
  unfold resolve
  rw [if_pos parts.isReference_text, h, parts.moduleOf_text, parts.attributeOf_text]
  simp only [parts.ownerText_eq_empty_iff]

theorem resolve_eq_unknownModule_iff {r : Registry m} {parts : Parts}
    (h : r.callables.get? parts.text = none) {reference owner : String} :
    r.resolve parts.text = .error (.unknownModule reference owner) ↔
      reference = parts.text ∧ owner = parts.ownerText ∧
        parts.owner ≠ [] ∧ ¬r.knowsModule parts.ownerText = true := by
  rw [resolve_of_unregistered h]
  split
  · rename_i hroot
    simp [hroot]
  · rename_i hmodule
    split
    · rename_i hknown
      simp [hknown]
    · rename_i hunknown
      constructor
      · rintro ⟨⟩
        exact ⟨rfl, rfl, hmodule, hunknown⟩
      · rintro ⟨rfl, rfl, -, -⟩
        rfl

theorem resolve_eq_unknownAttribute_iff {r : Registry m} {parts : Parts}
    (h : r.callables.get? parts.text = none) {reference : String} {owner : Option String}
    {member : String} :
    r.resolve parts.text = .error (.unknownAttribute reference owner member) ↔
      reference = parts.text ∧ owner = (if parts.owner = [] then none else some parts.ownerText) ∧
        member = parts.lastText ∧
        (parts.owner = [] ∨ parts.owner ≠ [] ∧ r.knowsModule parts.ownerText = true) := by
  rw [resolve_of_unregistered h]
  split
  · rename_i hroot
    constructor
    · rintro ⟨⟩
      exact ⟨rfl, rfl, rfl, .inl hroot⟩
    · rintro ⟨rfl, rfl, rfl, -⟩
      rfl
  · rename_i hmodule
    split
    · rename_i hknown
      constructor
      · rintro ⟨⟩
        exact ⟨rfl, rfl, rfl, .inr ⟨hmodule, hknown⟩⟩
      · rintro ⟨rfl, rfl, rfl, -⟩
        rfl
    · rename_i hunknown
      simp [hmodule, hunknown]

/-- What cannot be resolved is neither a factory nor a validator. -/
theorem kinds_of_resolve_error {r : Registry m} {reference : String} {e : ReferenceError}
    (h : r.resolve reference = .error e) :
    r.resolveFactory reference = .error e ∧ r.resolveValidator reference = .error e := by
  unfold resolveFactory resolveValidator
  rw [h]
  exact ⟨rfl, rfl⟩

/-- What is found under a reference with a callable. -/
structure Finds (r : Registry m) (reference : String) (callable : Callable m) : Prop where
  resolve_eq : r.resolve reference = .ok callable
  factory_ok_iff : ∀ run, r.resolveFactory reference = .ok run ↔ callable = .factory run
  factory_error_iff : ∀ e, r.resolveFactory reference = .error e ↔
    callable.kind = .validator ∧ e = .kindMismatch reference .factory .validator
  validator_ok_iff : ∀ run, r.resolveValidator reference = .ok run ↔ callable = .validator run
  validator_error_iff : ∀ e, r.resolveValidator reference = .error e ↔
    callable.kind = .factory ∧ e = .kindMismatch reference .validator .factory

theorem finds_of_resolve {r : Registry m} {reference : String} {callable : Callable m}
    (h : r.resolve reference = .ok callable) : r.Finds reference callable := by
  cases callable with
  | factory run =>
      refine ⟨h, ?_, ?_, ?_, ?_⟩
      all_goals
        intro answer
        simp [resolveFactory, resolveValidator, h, Callable.kind, eq_comm]
  | validator run =>
      refine ⟨h, ?_, ?_, ?_, ?_⟩
      all_goals
        intro answer
        simp [resolveFactory, resolveValidator, h, Callable.kind, eq_comm]

/-- What is said of a reference without a callable, where references with some paths have one. -/
structure Misses (r : Registry m) (paths : List (List (List Char))) (parts : Parts) : Prop where
  unknownModule_iff : ∀ reference owner,
    r.resolve parts.text = .error (.unknownModule reference owner) ↔
      reference = parts.text ∧ owner = parts.ownerText ∧
        parts.owner ≠ [] ∧ ∀ path ∈ paths, ¬parts.owner <+: path
  unknownAttribute_iff : ∀ reference owner member,
    r.resolve parts.text = .error (.unknownAttribute reference owner member) ↔
      reference = parts.text ∧ owner = (if parts.owner = [] then none else some parts.ownerText) ∧
        member = parts.lastText ∧ (parts.owner = [] ∨ ∃ path ∈ paths, parts.owner <+: path)
  shownOwner_eq : ∀ reference owner member,
    r.resolve parts.text = .error (.unknownAttribute reference owner member) →
      ReferenceError.shownOwner owner = if parts.owner = [] then "<root>" else parts.ownerText

theorem misses_of_absent {added : List (Parts × Callable m)} {parts : Parts}
    (h : ∀ entry ∈ added, entry.1.text ≠ parts.text) :
    (ofRegistrations added).Misses (added.map (·.1.path)) parts := by
  have habsent := get?_ofRegistrations_of_absent h
  have hknown : parts.owner ≠ [] → ((ofRegistrations added).knowsModule parts.ownerText = true ↔
      ∃ path ∈ added.map (·.1.path), parts.owner <+: path) := by
    intro hmodule
    rw [knowsModule_iff hmodule]
    simp
  refine ⟨?_, ?_, ?_⟩
  · intro reference owner
    rw [resolve_eq_unknownModule_iff habsent]
    refine and_congr_right fun _ => and_congr_right fun _ => and_congr_right fun hmodule => ?_
    rw [hknown hmodule]
    simp only [not_exists, not_and]
  · intro reference owner member
    rw [resolve_eq_unknownAttribute_iff habsent, and_congr_right hknown]
    refine and_congr_right fun _ => and_congr_right fun _ => and_congr_right fun _ => ?_
    by_cases hroot : parts.owner = [] <;> simp [hroot]
  · intro reference owner member hresolve
    obtain ⟨-, rfl, -⟩ := (resolve_eq_unknownAttribute_iff habsent).1 hresolve
    split <;> rfl

/-! ## Growing -/

/-- Registrations under other references leave the answer as it is, but an unknown module may become
known. -/
theorem resolve_append (added : List (Parts × Callable m)) {more : List (Parts × Callable m)}
    {reference : String} (h : ∀ entry ∈ more, entry.1.text ≠ reference) :
    (ofRegistrations (added ++ more)).resolve reference =
        (ofRegistrations added).resolve reference ∨
      ∃ owner member,
        (ofRegistrations added).resolve reference = .error (.unknownModule reference owner) ∧
        (ofRegistrations (added ++ more)).resolve reference =
          .error (.unknownAttribute reference (some owner) member) := by
  have hsame := get?_ofRegistrations_append added h
  by_cases hform : ∃ parts : Parts, parts.text = reference
  · obtain ⟨parts, rfl⟩ := hform
    cases hfound : (ofRegistrations added).callables.get? parts.text with
    | some callable =>
        left
        rw [resolve_of_registered hfound, resolve_of_registered (hsame.trans hfound)]
    | none =>
        rw [resolve_of_unregistered hfound, resolve_of_unregistered (hsame.trans hfound)]
        by_cases hroot : parts.owner = []
        · simp [hroot]
        · -- what is known of a module stays known, and no answer but this one depends on it
          simp only [hroot, if_false, knowsModule_iff hroot]
          by_cases hbefore : ∃ entry ∈ added, parts.owner <+: entry.1.path
          · obtain ⟨entry, hmem, hbegins⟩ := hbefore
            have hafter : ∃ entry ∈ added ++ more, parts.owner <+: entry.1.path :=
              ⟨entry, List.mem_append_left _ hmem, hbegins⟩
            left
            rw [if_pos hafter, if_pos ⟨entry, hmem, hbegins⟩]
          · rw [if_neg hbefore]
            by_cases hafter : ∃ entry ∈ added ++ more, parts.owner <+: entry.1.path
            · right
              rw [if_pos hafter]
              exact ⟨_, _, rfl, rfl⟩
            · left
              rw [if_neg hafter]
  · left
    rw [resolve_of_not_isReference _ hform, resolve_of_not_isReference _ hform]

/-! ## Every answer -/

/-- Which answer is given for a text, after any registrations under written references. -/
theorem resolve_classified (added : List (Parts × Callable m)) (reference : String) :
    (∀ shown manyColons,
      (ofRegistrations added).resolve reference = .error (.malformed shown manyColons) ↔
        shown = reference ∧ manyColons = decide (1 < Text.occurrences ':' reference) ∧
          ¬∃ parts : Parts, parts.text = reference) ∧
    (∀ before parts callable later, added = before ++ (parts, callable) :: later →
      parts.text = reference → (∀ entry ∈ later, entry.1.text ≠ reference) →
        (ofRegistrations added).Finds reference callable) ∧
    (∀ parts : Parts, parts.text = reference → (∀ entry ∈ added, entry.1.text ≠ reference) →
      (ofRegistrations added).Misses (added.map (·.1.path)) parts ∧
        parts.ownerText ++ String.ofList parts.separator.toList ++ parts.lastText = reference) ∧
    (∀ e, (ofRegistrations added).resolve reference = .error e →
      (ofRegistrations added).resolveFactory reference = .error e ∧
        (ofRegistrations added).resolveValidator reference = .error e) ∧
    (∀ more : List (Parts × Callable m), (∀ entry ∈ more, entry.1.text ≠ reference) →
      (∀ callable, (ofRegistrations added).resolve reference = .ok callable →
        (ofRegistrations (added ++ more)).Finds reference callable) ∧
      ((ofRegistrations (added ++ more)).resolve reference =
          (ofRegistrations added).resolve reference ∨
        ∃ owner member,
          (ofRegistrations added).resolve reference = .error (.unknownModule reference owner) ∧
          (ofRegistrations (added ++ more)).resolve reference =
            .error (.unknownAttribute reference (some owner) member))) := by
  refine ⟨?malformed, ?found, ?missed, ?kinds, ?growing⟩
  case malformed =>
    intro shown manyColons
    by_cases hform : ∃ parts : Parts, parts.text = reference
    · obtain ⟨parts, rfl⟩ := hform
      -- a text that is written from parts has every answer but this one
      have hnever : (ofRegistrations added).resolve parts.text ≠
          .error (.malformed shown manyColons) := by
        cases hfound : (ofRegistrations added).callables.get? parts.text with
        | some callable => simp [resolve_of_registered hfound]
        | none =>
            rw [resolve_of_unregistered hfound]
            split
            · simp
            · split <;> simp
      exact iff_of_false hnever fun h => h.2.2 ⟨parts, rfl⟩
    · rw [resolve_of_not_isReference _ hform]
      constructor
      · rintro ⟨⟩
        exact ⟨rfl, rfl, hform⟩
      · rintro ⟨rfl, rfl, -⟩
        rfl
  case found =>
    rintro before parts callable later rfl rfl hlater
    exact finds_of_resolve (resolve_of_registered (get?_ofRegistrations_of_last hlater))
  case missed =>
    rintro parts rfl habsent
    exact ⟨misses_of_absent habsent, parts.reassembled⟩
  case kinds => exact fun e => kinds_of_resolve_error
  case growing =>
    intro more hmore
    have hgrown := resolve_append added hmore
    refine ⟨?_, hgrown⟩
    intro callable hfound
    rcases hgrown with hsame | ⟨owner, member, hunknown, -⟩
    · exact finds_of_resolve (hsame.trans hfound)
    · rw [hunknown] at hfound
      cases hfound

end Registry

end DataCatalog
