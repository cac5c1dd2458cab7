import DataCatalog.Proofs.Parsing
import Mathlib.Logic.Relation

/-!
# The grammar of configurations

Which documents are configurations is said of the document alone.  `Tree.Child` leads from a value
to the values that stand directly in it, `Tree.ValuePosition` any number of such steps down, and
`Tree.Admissible` is what is asked of each of these values by itself.

`parse_iff_admissible` says that a document is parsed exactly when every value in it is admissible,
and that nothing is lost then: by `Tree.Reads` every sequence keeps its elements in their order and
every mapping has one entry for each of its keys.
-/

set_option autoImplicit false

namespace DataCatalog

namespace Tree

/-- The value that stands directly in a value: under a tag, as an element, under a key of data, or
as an argument of a recipe. -/
inductive Child : Tree → Tree → Prop where
  | tagged {tag : String} {t : Tree} : Child (.tagged tag t) t
  | item {items : List Tree} {t : Tree} (mem : t ∈ items) : Child (.seq items) t
  | value {entries : List (Tree × Tree)} {k t : Tree}
      (data : ∀ v, (.string Recipe.callableKey, v) ∉ entries) (mem : (k, t) ∈ entries) :
      Child (.map entries) t
  | argument {entries args : List (Tree × Tree)} {callable k t : Tree}
      (recipe : (.string Recipe.callableKey, callable) ∈ entries)
      (found : (.string Recipe.argsKey, .map args) ∈ entries) (mem : (k, t) ∈ args) :
      Child (.map entries) t

/-- A value that stands somewhere in a document, the document itself included. -/
def ValuePosition (t u : Tree) : Prop := Relation.ReflTransGen Child t u

/-- What is asked of a mapping with the key `callable`: a name that is not blank, no keys but
`callable` and `args`, and arguments, where there are any, in an untagged mapping. -/
structure RecipeShape (entries : List (Tree × Tree)) : Prop where
  name : ∃ s, (.string Recipe.callableKey, .string s) ∈ entries ∧ Text.isAllBlank s = false
  only : ∀ entry ∈ entries,
    entry.1 = .string Recipe.callableKey ∨ entry.1 = .string Recipe.argsKey
  args : ∀ t, (.string Recipe.argsKey, t) ∈ entries →
    t = .null ∨ ∃ args, t = .map args ∧ DistinctKeys args

/-- What is asked of a value by itself: an integer has 64 bits, and the keys of a mapping are
scalars with distinct texts. -/
def Admissible : Tree → Prop
  | .int i => Int64.minValue.toInt ≤ i ∧ i ≤ Int64.maxValue.toInt
  | .map entries => DistinctKeys entries ∧
      ∀ callable, (.string Recipe.callableKey, callable) ∈ entries → RecipeShape entries
  | _ => True

/-- One entry for every key, and no other, in the order of the texts of the keys. -/
structure SameKeys (entries : List (Tree × Tree)) (nodes : Entries Node) : Prop where
  ordered : Entries.Ordered nodes
  perm : (entries.map fun entry => entry.1.keyText?).Perm (nodes.map fun entry => some entry.1)

/-- A configuration says what a document says. -/
inductive Reads : Tree → Node → Prop where
  | null : Reads .null .null
  | bool (b : Bool) : Reads (.bool b) (.bool b)
  | int {i : Int} {n : Int64} (same : n.toInt = i) : Reads (.int i) (.int n)
  | float (x : Binary64) : Reads (.float x) (.float x)
  | string (s : String) : Reads (.string s) (.string s)
  | tagged {tag : String} {t : Tree} {n : Node} (value : Reads t n) : Reads (.tagged tag t) n
  | seq {items : List Tree} {nodes : List Node} (length : nodes.length = items.length)
      (each : ∀ (i : Nat) (t : Tree) (n : Node), items[i]? = some t → nodes[i]? = some n →
        Reads t n) :
      Reads (.seq items) (.seq nodes)
  | map {entries : List (Tree × Tree)} {nodes : Entries Node}
      (data : ∀ v, (.string Recipe.callableKey, v) ∉ entries) (keys : SameKeys entries nodes)
      (each : ∀ k t name n, (k, t) ∈ entries → k.keyText? = some name → (name, n) ∈ nodes →
        Reads t n) :
      Reads (.map entries) (.map nodes)
  | recipe {entries : List (Tree × Tree)} {s : String} (distinct : DistinctKeys entries)
      (name : (.string Recipe.callableKey, .string s) ∈ entries)
      (none : ∀ args, (.string Recipe.argsKey, .map args) ∉ entries) :
      Reads (.map entries) (.recipe (Text.trim s) [])
  | recipeWith {entries args : List (Tree × Tree)} {s : String} {nodes : Entries Node}
      (distinct : DistinctKeys entries) (name : (.string Recipe.callableKey, .string s) ∈ entries)
      (found : (.string Recipe.argsKey, .map args) ∈ entries) (keys : SameKeys args nodes)
      (each : ∀ k t name n, (k, t) ∈ args → k.keyText? = some name → (name, n) ∈ nodes →
        Reads t n) :
      Reads (.map entries) (.recipe (Text.trim s) nodes)

/-! ## Values stand in finitely many steps -/

theorem sizeOf_value_lt {entries : List (Tree × Tree)} {k t : Tree} (h : (k, t) ∈ entries) :
    sizeOf t < sizeOf (Tree.map entries) := by
  have hentry := List.sizeOf_lt_of_mem h
  simp only [Prod.mk.sizeOf_spec, Tree.map.sizeOf_spec] at hentry ⊢
  omega

theorem Child.sizeOf_lt {t u : Tree} (h : Child t u) : sizeOf u < sizeOf t := by
  cases h with
  | tagged =>
      simp only [Tree.tagged.sizeOf_spec]
      omega
  | item mem =>
      have hitem := List.sizeOf_lt_of_mem mem
      simp only [Tree.seq.sizeOf_spec]
      omega
  | value data mem => exact sizeOf_value_lt mem
  | argument recipe found mem => exact Nat.lt_trans (sizeOf_value_lt mem) (sizeOf_value_lt found)

/-- Something holds of all that is reached from a start when it holds of the start and of all that
is reached from one step further. -/
theorem forall_reached_iff {α : Type} {R : α → α → Prop} {P : α → Prop} {a : α} :
    (∀ b, Relation.ReflTransGen R a b → P b) ↔
      P a ∧ ∀ b, R a b → ∀ c, Relation.ReflTransGen R b c → P c := by
  constructor
  · intro h
    refine ⟨h a .refl, ?_⟩
    intro b hstep c hc
    exact h c (.head hstep hc)
  · rintro ⟨hself, hsteps⟩ b hb
    rcases Relation.ReflTransGen.cases_head hb with rfl | ⟨c, hstep, hc⟩
    · exact hself
    · exact hsteps c hstep b hc

/-- To prove something of every value it may be assumed of the values that stand in it. -/
theorem child_induction {P : Tree → Prop} (step : ∀ t, (∀ u, Child t u → P u) → P t) (t : Tree) :
    P t := by
  induction hsize : sizeOf t using Nat.strongRecOn generalizing t with
  | ind size ih =>
      subst hsize
      apply step
      intro u hchild
      exact ih (sizeOf u) hchild.sizeOf_lt u rfl

/-- Something holds of all values of a document when it holds of the document and of all values of
its parts. -/
theorem forall_valuePosition_iff {P : Tree → Prop} {t : Tree} :
    (∀ u, t.ValuePosition u → P u) ↔
      P t ∧ ∀ u, Child t u → ∀ v, u.ValuePosition v → P v :=
  forall_reached_iff

end Tree

/-! ## What is parsed and what it says -/

open DataCatalog.Tree Outline

theorem int64?_eq_some {i : Int} {n : Int64} (h : int64? i = some n) : n.toInt = i := by
  unfold int64? at h
  split at h
  · rename_i hrange
    cases h
    exact Int64.toInt_ofInt_of_le hrange.1 hrange.2
  · cases h

theorem exists_int64?_iff {i : Int} :
    (∃ n, int64? i = some n) ↔ Int64.minValue.toInt ≤ i ∧ i ≤ Int64.maxValue.toInt := by
  -- the bounds of the parser are written as powers
  have hmin : Int64.minValue.toInt = -Int.pow 2 63 := by decide
  have hmax : Int64.maxValue.toInt = Int.pow 2 63 - 1 := by decide
  rw [hmin, hmax]
  unfold int64?
  constructor
  · rintro ⟨n, h⟩
    split at h
    · omega
    · cases h
  · rintro ⟨hlow, hhigh⟩
    exact ⟨Int64.ofInt i, if_pos ⟨hlow, by omega⟩⟩

/-- The arguments of a recipe are parsed when they are null or a mapping with distinct scalars for
keys, and every value in it is parsed. -/
theorem exists_parsesArgs_iff {p : Position} {entries : List (Tree × Tree)}
    (distinct : DistinctKeys entries) :
    (∃ nodes, ParsesArgs p entries nodes) ↔
      (∀ t, (.string Recipe.argsKey, t) ∈ entries →
        t = .null ∨ ∃ args, t = .map args ∧ DistinctKeys args) ∧
      ∀ args k t name, (.string Recipe.argsKey, .map args) ∈ entries → (k, t) ∈ args →
        k.keyText? = some name → ∃ n, Node.parse t (p.key name) = .ok n := by
  constructor
  · rintro ⟨nodes, hargs⟩
    constructor
    · intro t hmem
      cases hargs with
      | absent free => exact absurd hmem (free t)
      | null found => exact .inl (distinct.eq_of_text hmem found)
      | @map args _ found parses =>
          exact .inr ⟨args, distinct.eq_of_text hmem found, (exists_parsesEntries_iff.1 ⟨_, parses⟩).1⟩
    · intro args k t name hmem hentry hk
      cases hargs with
      | absent free => exact absurd hmem (free _)
      | null found => cases distinct.eq_of_text hmem found
      | map found parses =>
          cases distinct.eq_of_text hmem found
          exact (exists_parsesEntries_iff.1 ⟨_, parses⟩).2 k t name hentry hk
  · rintro ⟨hargs, heach⟩
    by_cases hfree : ∀ t, (.string Recipe.argsKey, t) ∉ entries
    · exact ⟨[], .absent hfree⟩
    · obtain ⟨t, hmem⟩ : ∃ t, (.string Recipe.argsKey, t) ∈ entries := by
        simpa [Classical.not_forall] using hfree
      rcases hargs t hmem with rfl | ⟨args, rfl, hkeys⟩
      · exact ⟨[], .null hmem⟩
      · obtain ⟨nodes, hnodes⟩ := exists_parsesEntries_iff.2
          ⟨hkeys, fun k t name hentry hk => heach args k t name hmem hentry hk⟩
        exact ⟨nodes, .map hmem hnodes⟩

/-- A mapping with the key `callable` is a recipe when it has the shape of one and its arguments
can be parsed. -/
theorem exists_parsesRecipe_iff {p : Position} {entries : List (Tree × Tree)} :
    (∃ r, ParsesRecipe p [] entries r) ↔ DistinctKeys entries ∧ RecipeShape entries ∧
      ∀ args k t name, (.string Recipe.argsKey, .map args) ∈ entries → (k, t) ∈ args →
        k.keyText? = some name →
        ∃ n, Node.parse t ((p.key Recipe.argsKey).key name) = .ok n := by
  constructor
  · rintro ⟨r, distinct, ⟨s, hname, hblank, -⟩, only, hargs⟩
    obtain ⟨hshape, heach⟩ := (exists_parsesArgs_iff distinct).1 ⟨r.args, hargs⟩
    refine ⟨distinct, ⟨⟨s, hname, hblank⟩, ?_, hshape⟩, heach⟩
    intro entry hmem
    obtain ⟨k, hk, hcases⟩ := only entry hmem
    simp only [List.not_mem_nil, or_false] at hcases
    rcases hcases with rfl | rfl
    · exact .inl hk
    · exact .inr hk
  · rintro ⟨distinct, ⟨⟨s, hname, hblank⟩, only, hshape⟩, heach⟩
    obtain ⟨nodes, hnodes⟩ := (exists_parsesArgs_iff distinct).2 ⟨hshape, heach⟩
    refine ⟨⟨Text.trim s, nodes⟩, distinct, ⟨s, hname, hblank, rfl⟩, ?_, hnodes⟩
    intro entry hmem
    rcases only entry hmem with hk | hk
    · exact ⟨_, hk, .inl rfl⟩
    · exact ⟨_, hk, .inr (.inl rfl)⟩

section Mappings

variable {p : Position} {entries : List (Tree × Tree)} {V : Tree → Prop}
  (hvalues : ∀ u, Child (.map entries) u → ∀ q, (∃ n, Node.parse u q = .ok n) ↔ V u)

include hvalues

/-- A mapping without the key `callable` is parsed when its keys are distinct scalars and all its
values are parsed. -/
theorem exists_parse_data_iff (hdata : ∀ t, (.string Recipe.callableKey, t) ∉ entries) :
    (∃ n, Node.parse (.map entries) p = .ok n) ↔
      Admissible (.map entries) ∧ ∀ u, Child (.map entries) u → V u := by
  have hparse : (∃ n, Node.parse (.map entries) p = .ok n) ↔
      ∃ nodes, ParsesEntries p entries nodes := by
    unfold Node.parse
    simp only [node_map_eq_ok_iff]
    constructor
    · rintro ⟨n, ⟨-, nodes, hnodes, -⟩ | ⟨r, hr, -⟩⟩
      · exact ⟨nodes, hnodes⟩
      · obtain ⟨s, hname, -⟩ := hr.name
        exact absurd hname (hdata _)
    · rintro ⟨nodes, hnodes⟩
      exact ⟨_, .inl ⟨hdata, nodes, hnodes, rfl⟩⟩
  rw [hparse, exists_parsesEntries_iff]
  constructor
  · rintro ⟨distinct, heach⟩
    refine ⟨⟨distinct, fun callable hmem => absurd hmem (hdata callable)⟩, ?_⟩
    intro u hchild
    cases hchild with
    | @value _ k _ _ hmem =>
        obtain ⟨name, hname⟩ := exists_keyText?_iff.2 (distinct.scalar (k, u) hmem)
        exact (hvalues u (.value hdata hmem) (p.key name)).1 (heach k u name hmem hname)
    | argument hrecipe _ _ => exact absurd hrecipe (hdata _)
  · rintro ⟨⟨distinct, -⟩, heach⟩
    refine ⟨distinct, ?_⟩
    intro k t name hmem hk
    have hchild : Child (.map entries) t := .value hdata hmem
    exact (hvalues t hchild (p.key name)).2 (heach t hchild)

/-- A mapping with the key `callable` is parsed when it has the shape of a recipe and all its
arguments are parsed. -/
theorem exists_parse_recipe_iff {callable : Tree}
    (hcallable : (.string Recipe.callableKey, callable) ∈ entries) :
    (∃ n, Node.parse (.map entries) p = .ok n) ↔
      Admissible (.map entries) ∧ ∀ u, Child (.map entries) u → V u := by
  have hparse : (∃ n, Node.parse (.map entries) p = .ok n) ↔ ∃ r, ParsesRecipe p [] entries r := by
    unfold Node.parse
    simp only [node_map_eq_ok_iff]
    constructor
    · rintro ⟨n, ⟨hdata, -⟩ | ⟨r, hr, -⟩⟩
      · exact absurd hcallable (hdata callable)
      · exact ⟨r, hr⟩
    · rintro ⟨r, hr⟩
      exact ⟨_, .inr ⟨r, hr, rfl⟩⟩
  rw [hparse, exists_parsesRecipe_iff]
  constructor
  · rintro ⟨distinct, shape, heach⟩
    refine ⟨⟨distinct, fun _ _ => shape⟩, ?_⟩
    intro u hchild
    cases hchild with
    | value hdata _ => exact absurd hcallable (hdata _)
    | @argument _ args _ k _ hrecipe found hmem =>
        rcases shape.args _ found with hnull | ⟨args', heq, hkeys⟩
        · cases hnull
        · cases heq
          obtain ⟨name, hk⟩ := exists_keyText?_iff.2 (hkeys.scalar (k, u) hmem)
          exact (hvalues u (.argument hrecipe found hmem) _).1 (heach args k u name found hmem hk)
  · rintro ⟨⟨distinct, hshape⟩, heach⟩
    refine ⟨distinct, hshape callable hcallable, ?_⟩
    intro args k t name found hmem hk
    have hchild : Child (.map entries) t := .argument hcallable found hmem
    exact (hvalues t hchild _).2 (heach t hchild)

/-- A mapping is parsed when it is admissible and every value in it is parsed. -/
theorem exists_parse_map_iff :
    (∃ n, Node.parse (.map entries) p = .ok n) ↔
      Admissible (.map entries) ∧ ∀ u, Child (.map entries) u → V u := by
  by_cases hdata : ∀ t, (.string Recipe.callableKey, t) ∉ entries
  · exact exists_parse_data_iff hvalues hdata
  · obtain ⟨callable, hcallable⟩ : ∃ t, (.string Recipe.callableKey, t) ∈ entries := by
      simpa [Classical.not_forall] using hdata
    exact exists_parse_recipe_iff hvalues hcallable

end Mappings

/-- A sequence is parsed when every element is. -/
theorem exists_parse_seq_iff {p : Position} {items : List Tree} {V : Tree → Prop}
    (hvalues : ∀ u, Child (.seq items) u → ∀ q, (∃ n, Node.parse u q = .ok n) ↔ V u) :
    (∃ n, Node.parse (.seq items) p = .ok n) ↔ ∀ u, Child (.seq items) u → V u := by
  have hparse : (∃ n, Node.parse (.seq items) p = .ok n) ↔
      ∃ nodes, itemNodes p 0 (ofTrees items) = .ok nodes := by
    show (∃ n, Outline.node p (.seq (ofTrees items)) = .ok n) ↔ _
    unfold Outline.node
    cases itemNodes p 0 (ofTrees items) with
    | error e => simp
    | ok nodes => simp
  rw [hparse, exists_itemNodes_iff, ofTrees_eq_map]
  constructor
  · intro h u hchild
    cases hchild with
    | item hmem =>
        obtain ⟨j, hj⟩ := List.getElem?_of_mem hmem
        exact (hvalues u (.item hmem) _).1 (h j (ofTree u) (by simp [hj]))
  · intro heach j o hj
    rw [List.getElem?_map] at hj
    obtain ⟨u, hu, rfl⟩ := Option.map_eq_some_iff.1 hj
    have hchild : Child (.seq items) u := .item (List.mem_of_getElem? hu)
    exact (hvalues u hchild _).2 (heach u hchild)

theorem exists_parse_int_iff {p : Position} {i : Int} :
    (∃ n, Node.parse (.int i) p = .ok n) ↔ Admissible (.int i) := by
  refine Iff.trans ?_ exists_int64?_iff
  constructor
  · rintro ⟨n, h⟩
    obtain ⟨k, hk, -⟩ := parse_int_eq_ok_iff.1 h
    exact ⟨k, hk⟩
  · rintro ⟨k, hk⟩
    exact ⟨.int k, parse_int_eq_ok_iff.2 ⟨k, hk, rfl⟩⟩

/-- A document is parsed, at whatever position, exactly when all values in it are admissible. -/
theorem exists_parse_iff (t : Tree) : ∀ p, (∃ n, Node.parse t p = .ok n) ↔
    ∀ u, t.ValuePosition u → u.Admissible := by
  -- the induction is on what stands in a value: the arguments of a recipe stand in it directly,
  -- although a mapping lies between
  induction t using child_induction with
  | step t ih =>
      intro p
      rw [forall_valuePosition_iff]
      cases t with
      | map entries => exact exists_parse_map_iff ih
      | seq items =>
          rw [exists_parse_seq_iff ih]
          constructor
          · intro h
            exact ⟨trivial, h⟩
          · rintro ⟨-, h⟩
            exact h
      | int i =>
          rw [exists_parse_int_iff]
          constructor
          · intro h
            refine ⟨h, ?_⟩
            intro u hchild
            cases hchild
          · rintro ⟨h, -⟩
            exact h
      | tagged tag value =>
          constructor
          · intro h
            refine ⟨trivial, ?_⟩
            intro u hchild
            cases hchild
            exact (ih value .tagged p).1 h
          · rintro ⟨-, heach⟩
            exact (ih value .tagged p).2 (heach value .tagged)
      | _ =>
          constructor
          · intro _
            refine ⟨trivial, ?_⟩
            intro u hchild
            cases hchild
          · intro _
            exact ⟨_, rfl⟩

/-- Entries that are parsed say what the entries of the document say. -/
theorem reads_of_parsesEntries {p : Position} {entries : List (Tree × Tree)} {nodes : Entries Node}
    (h : ParsesEntries p entries nodes)
    (hvalues : ∀ k t, (k, t) ∈ entries → ∀ q n, Node.parse t q = .ok n → t.Reads n) :
    SameKeys entries nodes ∧ ∀ k t name n, (k, t) ∈ entries → k.keyText? = some name →
      (name, n) ∈ nodes → t.Reads n := by
  obtain ⟨ordered, perm⟩ := h.keys
  refine ⟨⟨ordered, perm⟩, ?_⟩
  intro k t name n hmem hk hnode
  obtain ⟨k', t', hmem', hk', hparse⟩ := h.each hnode
  -- the text of the key leads back to one entry of the document
  have distinct := (exists_parsesEntries_iff.1 ⟨nodes, h⟩).1
  have hsame : t' = t := (distinct.eq_of_keyText? hmem' hmem (hk'.trans hk.symm)).2
  subst hsame
  exact hvalues k' t' hmem' (p.key name) n hparse

/-- A recipe that is parsed says what its mapping says, whatever other keys the mapping has. -/
theorem reads_of_parsesRecipe {p : Position} {allowed : List String} {entries : List (Tree × Tree)}
    {r : Recipe} (h : ParsesRecipe p allowed entries r)
    (hvalues : ∀ args k t, (.string Recipe.argsKey, .map args) ∈ entries → (k, t) ∈ args →
      ∀ q n, Node.parse t q = .ok n → t.Reads n) :
    Reads (.map entries) r.node := by
  obtain ⟨callable, nodes⟩ := r
  obtain ⟨distinct, ⟨s, hname, -, hcallable⟩, -, hargs⟩ := h
  dsimp only at hcallable hargs
  subst hcallable
  cases hargs with
  | absent free => exact .recipe distinct hname fun args => free (.map args)
  | null found =>
      refine .recipe distinct hname fun args hmem => ?_
      cases distinct.eq_of_text found hmem
  | @map args _ found parses =>
      obtain ⟨keys, each⟩ := reads_of_parsesEntries parses fun k t hmem =>
        hvalues args k t found hmem
      exact .recipeWith distinct hname found keys each

/-- What is parsed from a document says what the document says. -/
theorem reads_of_parse (t : Tree) : ∀ p n, Node.parse t p = .ok n → t.Reads n := by
  induction t using child_induction with
  | step t ih =>
      intro p n h
      cases t with
      | null =>
          cases h
          exact .null
      | bool b =>
          cases h
          exact .bool b
      | float x =>
          cases h
          exact .float x
      | string s =>
          cases h
          exact .string s
      | int i =>
          obtain ⟨k, hk, rfl⟩ := parse_int_eq_ok_iff.1 h
          exact .int (int64?_eq_some hk)
      | tagged tag value => exact .tagged (ih value .tagged p n h)
      | seq items =>
          obtain ⟨nodes, rfl, hlength, heach⟩ := of_parse_seq h
          refine .seq hlength ?_
          intro j u n hu hn
          exact ih u (.item (List.mem_of_getElem? hu)) _ n (heach j u n hu hn)
      | map entries =>
          rcases node_map_eq_ok_iff.1 h with ⟨hdata, nodes, hnodes, rfl⟩ | ⟨r, hr, rfl⟩
          · obtain ⟨keys, each⟩ := reads_of_parsesEntries hnodes fun k t hmem =>
              ih t (.value hdata hmem)
            exact .map hdata keys each
          · obtain ⟨s, hname, -⟩ := hr.name
            exact reads_of_parsesRecipe hr fun args k t found hmem =>
              ih t (.argument hname found hmem)

/-- The parser accepts exactly the grammar and loses nothing.  Whether a document is parsed is a
matter of its values one by one, wherever they stand and whatever the position; what is parsed then
keeps the elements of every sequence and one entry for every key of every mapping. -/
theorem parse_iff_admissible (t : Tree) (p : Position) :
    ((∃ n, Node.parse t p = .ok n) ↔ ∀ u, t.ValuePosition u → u.Admissible) ∧
      ∀ n, Node.parse t p = .ok n → t.Reads n :=
  ⟨exists_parse_iff t p, reads_of_parse t p⟩

end DataCatalog
