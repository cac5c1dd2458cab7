import DataCatalog.Proofs.DocumentPosition
import DataCatalog.Proofs.PlainData
import DataCatalog.Proofs.Recording
import DataCatalog.Proofs.Runs

/-!
# Configurations without recipes

Three recursions look for recipes: the parser decides which mappings of a document are recipes,
`Node.isPlain` looks for them in a configuration, and `Builder.resolve` builds them.
`plain_configurations_untouched` says that the three agree.  A configuration is plain when no
mapping of its document has the key `callable`; a plain one is resolved to its own image without a
call, whatever there is to build with; any other one needs a registry that knows its callables.
-/

set_option autoImplicit false

namespace DataCatalog

namespace Node

@[simp] theorem isPlain_seq (items : List Node) : (Node.seq items).isPlain = arePlain items := by
  rw [isPlain]

@[simp] theorem isPlain_map (entries : Entries Node) :
    (Node.map entries).isPlain = entriesArePlain entries := by
  rw [isPlain]

@[simp] theorem arePlain_cons (n : Node) (rest : List Node) :
    arePlain (n :: rest) = (n.isPlain && arePlain rest) := by
  rw [arePlain]

@[simp] theorem entriesArePlain_cons (k : String) (n : Node) (rest : Entries Node) :
    entriesArePlain ((k, n) :: rest) = (n.isPlain && entriesArePlain rest) := by
  rw [entriesArePlain]

theorem arePlain_iff {items : List Node} :
    arePlain items = true ↔ ∀ n ∈ items, n.isPlain = true := by
  induction items with
  | nil => simp [arePlain]
  | cons n rest ih => simp [ih]

theorem entriesArePlain_iff {entries : Entries Node} :
    entriesArePlain entries = true ↔ ∀ name n, (name, n) ∈ entries → n.isPlain = true := by
  induction entries with
  | nil => simp [entriesArePlain]
  | cons head rest ih =>
      obtain ⟨k, n⟩ := head
      rw [entriesArePlain_cons, Bool.and_eq_true, ih, Entries.forall_mem_cons]

mutual

/-- A plain configuration has a value. -/
theorem exists_value? : (n : Node) → n.isPlain = true → ∃ v, n.value? = some v
  | .null, _ => ⟨_, rfl⟩
  | .bool _, _ => ⟨_, rfl⟩
  | .int _, _ => ⟨_, rfl⟩
  | .float _, _ => ⟨_, rfl⟩
  | .string _, _ => ⟨_, rfl⟩
  | .seq items, h => by
      obtain ⟨values, hvalues⟩ := exists_itemValues?_of_arePlain items h
      exact ⟨.list values, Option.map_eq_some_iff.2 ⟨values, hvalues, rfl⟩⟩
  | .map entries, h => by
      obtain ⟨values, hvalues⟩ := exists_entryValues?_of_arePlain entries h
      exact ⟨.map values, Option.map_eq_some_iff.2 ⟨values, hvalues, rfl⟩⟩
  | .recipe _ _, h => by cases h

theorem exists_itemValues?_of_arePlain : (items : List Node) → arePlain items = true →
    ∃ values, itemValues? items = some values
  | [], _ => ⟨[], rfl⟩
  | n :: rest, h => by
      obtain ⟨hhead, hrest⟩ := Bool.and_eq_true_iff.1 h
      obtain ⟨v, hv⟩ := exists_value? n hhead
      obtain ⟨vs, hvs⟩ := exists_itemValues?_of_arePlain rest hrest
      exact ⟨v :: vs, itemValues?_cons_eq_some_iff.2 ⟨v, vs, hv, hvs, rfl⟩⟩

theorem exists_entryValues?_of_arePlain : (entries : List (String × Node)) →
    entriesArePlain entries = true → ∃ values, entryValues? entries = some values
  | [], _ => ⟨[], rfl⟩
  | (k, n) :: rest, h => by
      obtain ⟨hhead, hrest⟩ := Bool.and_eq_true_iff.1 h
      obtain ⟨v, hv⟩ := exists_value? n hhead
      obtain ⟨vs, hvs⟩ := exists_entryValues?_of_arePlain rest hrest
      exact ⟨(k, v) :: vs, entryValues?_cons_eq_some_iff.2 ⟨v, vs, hv, hvs, rfl⟩⟩

end

end Node

namespace Tree

/-- No mapping in a value of a document has the key `callable`. -/
def RecipeFree (t : Tree) : Prop :=
  ∀ entries v, t.ValuePosition (.map entries) → (.string Recipe.callableKey, v) ∉ entries

theorem recipeFree_iff {t : Tree} :
    t.RecipeFree ↔ (∀ entries v, t = .map entries → (.string Recipe.callableKey, v) ∉ entries) ∧
      ∀ u, Child t u → u.RecipeFree := by
  have hvalues := forall_valuePosition_iff (t := t) (P := fun u =>
    ∀ entries v, u = .map entries → (.string Recipe.callableKey, v) ∉ entries)
  have hmaps (u : Tree) : u.RecipeFree ↔ ∀ w, u.ValuePosition w →
      ∀ entries v, w = .map entries → (.string Recipe.callableKey, v) ∉ entries := by
    constructor
    · rintro h w hw entries v rfl
      exact h entries v hw
    · intro h entries v hw
      exact h (.map entries) hw entries v rfl
  simp only [hmaps]
  exact hvalues

theorem recipeFree_tagged_iff {tag : String} {t : Tree} :
    (Tree.tagged tag t).RecipeFree ↔ t.RecipeFree := by
  rw [recipeFree_iff]
  constructor
  · rintro ⟨-, h⟩
    exact h t .tagged
  · intro h
    constructor
    · intro entries v heq
      cases heq
    · intro u hchild
      cases hchild
      exact h

theorem recipeFree_seq_iff {items : List Tree} :
    (Tree.seq items).RecipeFree ↔ ∀ t ∈ items, t.RecipeFree := by
  rw [recipeFree_iff]
  constructor
  · rintro ⟨-, h⟩ t hmem
    exact h t (.item hmem)
  · intro h
    constructor
    · intro entries v heq
      cases heq
    · intro t hchild
      cases hchild with
      | item hmem => exact h t hmem

theorem recipeFree_map_iff {entries : List (Tree × Tree)}
    (data : ∀ v, (.string Recipe.callableKey, v) ∉ entries) :
    (Tree.map entries).RecipeFree ↔ ∀ k t, (k, t) ∈ entries → t.RecipeFree := by
  rw [recipeFree_iff]
  constructor
  · rintro ⟨-, h⟩ k t hmem
    exact h t (.value data hmem)
  · intro h
    constructor
    · rintro _ v ⟨⟩
      exact data v
    · intro t hchild
      cases hchild with
      | value _ hmem => exact h _ t hmem
      | argument hrecipe _ _ => exact absurd hrecipe (data _)

theorem not_recipeFree {entries : List (Tree × Tree)} {callable : Tree}
    (hmem : (.string Recipe.callableKey, callable) ∈ entries) :
    ¬(Tree.map entries).RecipeFree :=
  fun h => h entries callable .refl hmem

theorem SameKeys.exists_node {entries : List (Tree × Tree)} {nodes : Entries Node}
    (h : SameKeys entries nodes) {k t : Tree} (hmem : (k, t) ∈ entries) :
    ∃ name n, k.keyText? = some name ∧ (name, n) ∈ nodes := by
  have htext := h.perm.mem_iff.1 (List.mem_map.2 ⟨(k, t), hmem, rfl⟩)
  obtain ⟨⟨name, n⟩, hnode, heq⟩ := List.mem_map.1 htext
  exact ⟨name, n, heq.symm, hnode⟩

/-- What is read from a document is plain exactly when no mapping of the document is a recipe. -/
theorem Reads.isPlain_iff {t : Tree} {n : Node} (h : t.Reads n) :
    n.isPlain = true ↔ t.RecipeFree := by
  -- a scalar is plain, and no mapping stands in it
  have hscalar {t : Tree} (scalar : t.IsScalar) : t.RecipeFree := by
    apply recipeFree_iff.2
    constructor
    · rintro entries v rfl
      exact scalar.elim
    · intro u hchild
      cases hchild <;> exact scalar.elim
  induction h with
  | null => exact iff_of_true rfl (hscalar trivial)
  | bool b => exact iff_of_true rfl (hscalar trivial)
  | int same => exact iff_of_true rfl (hscalar trivial)
  | float x => exact iff_of_true rfl (hscalar trivial)
  | string s => exact iff_of_true rfl (hscalar trivial)
  | tagged value ih => exact ih.trans recipeFree_tagged_iff.symm
  | @seq items nodes length each ih =>
      rw [Node.isPlain_seq, Node.arePlain_iff, recipeFree_seq_iff]
      -- elements and nodes belong together by their index
      constructor
      · intro hplain t hmem
        obtain ⟨i, hi, rfl⟩ := List.mem_iff_getElem.1 hmem
        have hitem : items[i]? = some items[i] := List.getElem?_eq_getElem hi
        have hnode : nodes[i]? = some nodes[i] := List.getElem?_eq_getElem (length ▸ hi)
        exact (ih i _ _ hitem hnode).1 (hplain _ (List.getElem_mem _))
      · intro hfree n hmem
        obtain ⟨i, hi, rfl⟩ := List.mem_iff_getElem.1 hmem
        have hitem : items[i]? = some items[i] := List.getElem?_eq_getElem (length ▸ hi)
        have hnode : nodes[i]? = some nodes[i] := List.getElem?_eq_getElem hi
        exact (ih i _ _ hitem hnode).2 (hfree _ (List.getElem_mem _))
  | @map entries nodes data keys each ih =>
      rw [Node.isPlain_map, Node.entriesArePlain_iff, recipeFree_map_iff data]
      -- entries and nodes belong together by the text of their key
      constructor
      · intro hplain k t hmem
        obtain ⟨name, n, hk, hnode⟩ := keys.exists_node hmem
        exact (ih k t name n hmem hk hnode).1 (hplain name n hnode)
      · intro hfree name n hnode
        obtain ⟨k, t, hmem, hk⟩ := keys.exists_key hnode
        exact (ih k t name n hmem hk hnode).2 (hfree k t hmem)
  | recipe distinct name none =>
      exact iff_of_false Bool.false_ne_true (not_recipeFree name)
  | recipeWith distinct name found keys each ih =>
      exact iff_of_false Bool.false_ne_true (not_recipeFree name)

end Tree

namespace Builder

open Node

section Unregistered

/-- The empty registry has no factory for any reference. -/
theorem exists_resolveFactory_empty {m : Type → Type} (reference : String) :
    ∃ e, (Registry.empty : Registry m).resolveFactory reference = .error e := by
  have hnone : (Registry.empty : Registry m).callables.get? reference = none := rfl
  have hresolve : ∃ e, (Registry.empty : Registry m).resolve reference = .error e := by
    simp only [Registry.resolve, hnone]
    split_ifs <;> exact ⟨_, rfl⟩
  obtain ⟨e, he⟩ := hresolve
  exact ⟨e, by rw [Registry.resolveFactory, he]⟩

variable {σ : Type} (initialised : Dict Value) (s : σ)

/-- What there is to build with when nothing is registered. -/
def unregistered : Builder (StateM σ) := ⟨Registry.empty, initialised⟩

mutual

/-- With nothing registered, a configuration that is not plain stops at a reference. -/
theorem resolve_unregistered : (n : Node) → n.isPlain = false → (q : Position) →
    ∃ r e, ((unregistered initialised).resolve q n).run.run s = (.error (.reference r e), s)
  | .null, h, _ => by cases h
  | .bool _, h, _ => by cases h
  | .int _, h, _ => by cases h
  | .float _, h, _ => by cases h
  | .string _, h, _ => by cases h
  | .seq items, h, q => by
      obtain ⟨r, e, hitems⟩ := resolveItems_unregistered items h q 0
      exact ⟨r, e, run_bind_error _ hitems⟩
  | .map entries, h, q => by
      obtain ⟨r, e, hentries⟩ := resolveEntries_unregistered entries h q
      exact ⟨r, e, run_bind_error _ hentries⟩
  | .recipe callable _, _, q => by
      -- the callable is looked up before the arguments, which do not matter here
      obtain ⟨e, he⟩ := exists_resolveFactory_empty (m := StateM σ) callable
      refine ⟨q, e, ?_⟩
      rw [resolve, show (unregistered initialised).registry = Registry.empty from rfl, he]
      rfl

theorem resolveItems_unregistered : (items : List Node) → arePlain items = false →
    (q : Position) → (i : Nat) →
    ∃ r e, ((unregistered initialised).resolveItems q i items).run.run s =
      (.error (.reference r e), s)
  | [], h, _, _ => by cases h
  | n :: rest, h, q, i => by
      cases hn : n.isPlain with
      | false =>
          obtain ⟨r, e, hthrow⟩ := resolve_unregistered n hn (q.index i)
          exact ⟨r, e, run_bind_error _ hthrow⟩
      | true =>
          -- a plain element is passed, and the trouble is further on
          rw [arePlain_cons, hn, Bool.true_and] at h
          obtain ⟨v, hv⟩ := exists_value? n hn
          obtain ⟨r, e, hthrow⟩ := resolveItems_unregistered rest h q (i + 1)
          refine ⟨r, e, ?_⟩
          rw [resolveItems, resolve_of_value? _ n hv, pure_bind]
          exact run_bind_error _ hthrow

theorem resolveEntries_unregistered : (entries : List (String × Node)) →
    entriesArePlain entries = false → (q : Position) →
    ∃ r e, ((unregistered initialised).resolveEntries q entries).run.run s =
      (.error (.reference r e), s)
  | [], h, _ => by cases h
  | (k, n) :: rest, h, q => by
      cases hn : n.isPlain with
      | false =>
          obtain ⟨r, e, hthrow⟩ := resolve_unregistered n hn (q.key k)
          exact ⟨r, e, run_bind_error _ hthrow⟩
      | true =>
          rw [entriesArePlain_cons, hn, Bool.true_and] at h
          obtain ⟨v, hv⟩ := exists_value? n hn
          obtain ⟨r, e, hthrow⟩ := resolveEntries_unregistered rest h q
          refine ⟨r, e, ?_⟩
          rw [resolveEntries, resolve_of_value? _ n hv, pure_bind]
          exact run_bind_error _ hthrow

end

end Unregistered

/-- A plain configuration is resolved to its value without an event. -/
theorem observe_resolve_of_value? {σ : Type} (b : Builder (StateM σ)) {n : Node} {v : Value}
    (h : n.value? = some v) (q : Position) (s : σ) :
    observe (b.recorded.resolve q n) s = ⟨.ok v, [], s⟩ := by
  rw [resolve_of_value? b.recorded n h q]
  exact observe_pure v s

end Builder

/-- Plain data comes back unchanged and touches nothing.  What is parsed is plain exactly when no
mapping in its document has the key `callable`; what is plain is resolved to its own image, without
a call and whatever is registered or initialised; and what is not plain cannot be resolved when
nothing is registered. -/
theorem plain_configurations_untouched {σ : Type} (t : Tree) (p : Position) (n : Node) (s : σ) :
    (Node.parse t p = .ok n → (n.isPlain = true ↔ t.RecipeFree)) ∧
      (n.isPlain = true → ∃ v, n.value? = some v ∧ ∀ (b : Builder (StateM σ)) (q : Position),
        (b.resolve q n).run.run s = (.ok v, s) ∧
          observe (b.recorded.resolve q n) s = ⟨.ok v, [], s⟩) ∧
      (n.isPlain = false → ∀ initialised q, ∃ r e,
        ((⟨Registry.empty, initialised⟩ : Builder (StateM σ)).resolve q n).run.run s =
          (.error (.reference r e), s)) := by
  refine ⟨fun hparse => (reads_of_parse t p n hparse).isPlain_iff, ?_, ?_⟩
  · intro hplain
    obtain ⟨v, hv⟩ := n.exists_value? hplain
    refine ⟨v, hv, fun b q => ⟨?_, b.observe_resolve_of_value? hv q s⟩⟩
    rw [b.resolve_of_value? n hv]
    rfl
  · intro hnot initialised q
    exact Builder.resolve_unregistered initialised s n hnot q

end DataCatalog
