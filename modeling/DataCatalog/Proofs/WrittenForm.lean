import DataCatalog.Proofs.ErrorPosition
import Mathlib.Data.List.DropRight

/-!
# The written form of a configuration

`Node.toTree` writes a configuration as a document.  Not every configuration can be told from its
written form: data with the key `callable` would be taken for a recipe, and the blanks around the
name of a callable are lost.  `Node.WellFormed` leaves these out, at every depth.  All NaNs are
written as the same one, which `Node.oneNaN` puts in their place.

Main statement: `written_form` says that a configuration is parsed back from its written form, with
the one NaN in it, exactly when it is well formed, and that whatever is parsed from a document is,
so that no recipe is hidden in the data behind the parser.
-/

set_option autoImplicit false

namespace DataCatalog

/-! ## Trimmed texts -/

namespace Text

theorem trimChars_eq_rdropWhile (drop : Char → Bool) (cs : List Char) :
    trimChars drop cs = (cs.dropWhile drop).rdropWhile drop :=
  rfl

/-- Nothing is left to be trimmed. -/
theorem trimChars_trimChars (drop : Char → Bool) (cs : List Char) :
    trimChars drop (trimChars drop cs) = trimChars drop cs := by
  simp only [trimChars_eq_rdropWhile]
  -- what stands first after the beginning was dropped is still first after the end was dropped
  have hfirst : ((cs.dropWhile drop).rdropWhile drop).dropWhile drop =
      (cs.dropWhile drop).rdropWhile drop := by
    apply List.dropWhile_eq_self_iff.2
    intro hpos
    have hbegins := List.rdropWhile_prefix drop (cs.dropWhile drop)
    have hdropped : (cs.dropWhile drop).dropWhile drop = cs.dropWhile drop :=
      List.dropWhile_idempotent drop cs
    rw [hbegins.getElem hpos]
    exact List.dropWhile_eq_self_iff.1 hdropped (Nat.lt_of_lt_of_le hpos hbegins.length_le)
  rw [hfirst]
  exact List.rdropWhile_idempotent drop (cs.dropWhile drop)

theorem trim_trim (s : String) : trim (trim s) = trim s := by
  simp only [trim, String.toList_ofList, trimChars_trimChars]

theorem isAllBlank_trim (s : String) : isAllBlank (trim s) = isAllBlank s := by
  have hiff : isAllBlank (trim s) = true ↔ isAllBlank s = true := by
    rw [← trim_eq_empty_iff, ← trim_eq_empty_iff, trim_trim]
  exact Bool.eq_iff_iff.2 hiff

end Text

/-! ## Well-formed configurations -/

namespace Node

/-- A configuration in which no data has the key `callable` and every callable has a name without
blanks around it. -/
inductive WellFormed : Node → Prop where
  | null : WellFormed .null
  | bool (b : Bool) : WellFormed (.bool b)
  | int (i : Int64) : WellFormed (.int i)
  | float (x : Binary64) : WellFormed (.float x)
  | string (s : String) : WellFormed (.string s)
  | seq {items : List Node} (each : ∀ n ∈ items, WellFormed n) : WellFormed (.seq items)
  | map {entries : List (String × Node)} (data : Recipe.callableKey ∉ Entries.keys entries)
      (each : ∀ name n, (name, n) ∈ entries → WellFormed n) : WellFormed (.map entries)
  | recipe {callable : String} {args : List (String × Node)}
      (named : Text.isAllBlank callable = false) (trimmed : Text.trim callable = callable)
      (each : ∀ name n, (name, n) ∈ args → WellFormed n) : WellFormed (.recipe callable args)

theorem wellFormed_seq_iff {items : List Node} :
    WellFormed (.seq items) ↔ ∀ n ∈ items, n.WellFormed := by
  constructor
  · intro h
    cases h with
    | seq each => exact each
  · exact .seq

theorem wellFormed_map_iff {entries : List (String × Node)} :
    WellFormed (.map entries) ↔ Recipe.callableKey ∉ Entries.keys entries ∧
      ∀ name n, (name, n) ∈ entries → n.WellFormed := by
  constructor
  · intro h
    cases h with
    | map data each => exact ⟨data, each⟩
  · rintro ⟨data, each⟩
    exact .map data each

theorem wellFormed_recipe_iff {callable : String} {args : List (String × Node)} :
    WellFormed (.recipe callable args) ↔
      (Text.isAllBlank callable = false ∧ Text.trim callable = callable) ∧
        ∀ name n, (name, n) ∈ args → n.WellFormed := by
  constructor
  · intro h
    cases h with
    | recipe named trimmed each => exact ⟨⟨named, trimmed⟩, each⟩
  · rintro ⟨⟨named, trimmed⟩, each⟩
    exact .recipe named trimmed each

/-! ## One NaN -/

mutual

/-- A configuration with the one NaN in place of all NaNs. -/
def oneNaN : Node → Node
  | .float x => .float x.canonical
  | .seq items => .seq (itemsOneNaN items)
  | .map entries => .map (entriesOneNaN entries)
  | .recipe callable args => .recipe callable (entriesOneNaN args)
  | n => n

def itemsOneNaN : List Node → List Node
  | [] => []
  | n :: rest => oneNaN n :: itemsOneNaN rest

def entriesOneNaN : List (String × Node) → List (String × Node)
  | [] => []
  | (k, n) :: rest => (k, oneNaN n) :: entriesOneNaN rest

end

theorem entriesOneNaN_eq_map (entries : List (String × Node)) :
    entriesOneNaN entries = entries.map fun entry => (entry.1, entry.2.oneNaN) := by
  induction entries with
  | nil => rfl
  | cons head rest ih =>
      obtain ⟨k, n⟩ := head
      rw [entriesOneNaN, ih, List.map_cons]

theorem itemsOneNaN_eq_map (items : List Node) : itemsOneNaN items = items.map oneNaN := by
  induction items with
  | nil => rfl
  | cons n rest ih => rw [itemsOneNaN, ih, List.map_cons]

theorem keys_entriesOneNaN (entries : List (String × Node)) :
    Entries.keys (entriesOneNaN entries) = Entries.keys entries := by
  rw [entriesOneNaN_eq_map, Entries.keys, Entries.keys, List.map_map]
  rfl

theorem entries_ordered_oneNaN {entries : List (String × Node)} :
    Entries.Ordered (entriesOneNaN entries) ↔ Entries.Ordered entries := by
  rw [Entries.ordered_iff_keys, Entries.ordered_iff_keys, keys_entriesOneNaN]

mutual

/-- Neither the keys nor their order are a matter of NaNs. -/
theorem ordered_oneNaN : (n : Node) → (n.oneNaN.Ordered ↔ n.Ordered)
  | .null => Iff.rfl
  | .bool _ => Iff.rfl
  | .int _ => Iff.rfl
  | .float _ => Iff.rfl
  | .string _ => Iff.rfl
  | .seq items => itemsOrdered_oneNaN items
  | .map entries => and_congr entries_ordered_oneNaN (entriesOrdered_oneNaN entries)
  | .recipe _ args => and_congr entries_ordered_oneNaN (entriesOrdered_oneNaN args)

theorem itemsOrdered_oneNaN :
    (items : List Node) → (ItemsOrdered (itemsOneNaN items) ↔ ItemsOrdered items)
  | [] => Iff.rfl
  | n :: rest => and_congr (ordered_oneNaN n) (itemsOrdered_oneNaN rest)

theorem entriesOrdered_oneNaN : (entries : List (String × Node)) →
    (EntriesOrdered (entriesOneNaN entries) ↔ EntriesOrdered entries)
  | [] => Iff.rfl
  | (_, n) :: rest => and_congr (ordered_oneNaN n) (entriesOrdered_oneNaN rest)

end

mutual

/-- Neither the keys of data nor the callables are a matter of NaNs. -/
theorem wellFormed_oneNaN : (n : Node) → (n.oneNaN.WellFormed ↔ n.WellFormed)
  | .null => Iff.rfl
  | .bool _ => Iff.rfl
  | .int _ => Iff.rfl
  | .float x => iff_of_true (.float x.canonical) (.float x)
  | .string _ => Iff.rfl
  | .seq items => by
      rw [oneNaN, wellFormed_seq_iff, wellFormed_seq_iff]
      exact itemsWellFormed_oneNaN items
  | .map entries => by
      rw [oneNaN, wellFormed_map_iff, wellFormed_map_iff, keys_entriesOneNaN]
      exact and_congr_right' (entriesWellFormed_oneNaN entries)
  | .recipe _ args => by
      rw [oneNaN, wellFormed_recipe_iff, wellFormed_recipe_iff]
      exact and_congr_right' (entriesWellFormed_oneNaN args)

theorem itemsWellFormed_oneNaN : (items : List Node) →
    ((∀ n ∈ itemsOneNaN items, n.WellFormed) ↔ ∀ n ∈ items, n.WellFormed)
  | [] => Iff.rfl
  | n :: rest => by
      rw [itemsOneNaN, List.forall_mem_cons, List.forall_mem_cons]
      exact and_congr (wellFormed_oneNaN n) (itemsWellFormed_oneNaN rest)

theorem entriesWellFormed_oneNaN : (entries : List (String × Node)) →
    ((∀ name n, (name, n) ∈ entriesOneNaN entries → n.WellFormed) ↔
      ∀ name n, (name, n) ∈ entries → n.WellFormed)
  | [] => Iff.rfl
  | (_, n) :: rest => by
      rw [entriesOneNaN, Entries.forall_mem_cons, Entries.forall_mem_cons]
      exact and_congr (wellFormed_oneNaN n) (entriesWellFormed_oneNaN rest)

end

end Node

/-- The only NaN among the values of a document is the one that is written; YAML has no other. -/
def Tree.OneNaN (t : Tree) : Prop := ∀ x, t.ValuePosition (.float x) → x.canonical = x

theorem Tree.OneNaN.of_child {t u : Tree} (h : t.OneNaN) (child : Child t u) : u.OneNaN :=
  fun x hx => h x (.head child hx)

/-- What is read from a document with the one NaN has no other. -/
theorem Tree.Reads.oneNaN_eq {t : Tree} {n : Node} (h : t.Reads n) (one : t.OneNaN) :
    n.oneNaN = n := by
  -- entries and what is read from them belong together by the text of their key
  have hentries {entries : List (Tree × Tree)} {nodes : Entries Node}
      (keys : SameKeys entries nodes)
      (each : ∀ k t name n, (k, t) ∈ entries → k.keyText? = some name → (name, n) ∈ nodes →
        n.oneNaN = n) : Node.entriesOneNaN nodes = nodes := by
    have hsame : ∀ entry ∈ nodes, (entry.1, entry.2.oneNaN) = entry := by
      rintro ⟨name, n⟩ hnode
      obtain ⟨k, t, hmem, hk⟩ := keys.exists_key hnode
      exact congrArg (Prod.mk name) (each k t name n hmem hk hnode)
    rw [Node.entriesOneNaN_eq_map, List.map_congr_left hsame, List.map_id']
  induction h with
  | null => rfl
  | bool b => rfl
  | int same => rfl
  | float x => exact congrArg Node.float (one x .refl)
  | string s => rfl
  | tagged value ih => exact ih (one.of_child .tagged)
  | @seq items nodes length each ih =>
      have hsame : ∀ n ∈ nodes, n.oneNaN = n := by
        intro n hmem
        obtain ⟨i, hi, rfl⟩ := List.mem_iff_getElem.1 hmem
        have hitem : items[i]? = some items[i] := List.getElem?_eq_getElem (length ▸ hi)
        have hnode : nodes[i]? = some nodes[i] := List.getElem?_eq_getElem hi
        exact ih i _ _ hitem hnode (one.of_child (.item (List.getElem_mem _)))
      rw [Node.oneNaN, Node.itemsOneNaN_eq_map, List.map_congr_left hsame, List.map_id']
  | map data keys each ih =>
      refine congrArg Node.map (hentries keys fun k t name n hmem hk hnode => ?_)
      exact ih k t name n hmem hk hnode (one.of_child (.value data hmem))
  | recipe distinct name none => rfl
  | recipeWith distinct name found keys each ih =>
      refine congrArg (Node.recipe _) (hentries keys fun k t name' n hmem hk hnode => ?_)
      exact ih k t name' n hmem hk hnode (one.of_child (.argument name found hmem))

/-! ## Parsing what was written -/

namespace Node

theorem toTreeEntries_eq_map (entries : List (String × Node)) :
    toTreeEntries entries = entries.map fun entry => (.string entry.1, entry.2.toTree) := by
  induction entries with
  | nil => rfl
  | cons head rest ih =>
      obtain ⟨k, n⟩ := head
      rw [toTreeEntries, ih, List.map_cons]

theorem mem_toTreeEntries_iff {entries : List (String × Node)} {k t : Tree} :
    (k, t) ∈ toTreeEntries entries ↔
      ∃ name n, (name, n) ∈ entries ∧ k = .string name ∧ t = n.toTree := by
  rw [toTreeEntries_eq_map]
  constructor
  · intro hmem
    obtain ⟨⟨name, n⟩, hin, heq⟩ := List.mem_map.1 hmem
    obtain ⟨rfl, rfl⟩ := Prod.mk.inj heq
    exact ⟨name, n, hin, rfl, rfl⟩
  · rintro ⟨name, n, hin, rfl, rfl⟩
    exact List.mem_map.2 ⟨(name, n), hin, rfl⟩

theorem mem_entriesOneNaN {entries : List (String × Node)} {name : String} {n : Node}
    (h : (name, n) ∈ entries) : (name, n.oneNaN) ∈ entriesOneNaN entries := by
  rw [entriesOneNaN_eq_map]
  exact List.mem_map.2 ⟨(name, n), h, rfl⟩

end Node

open DataCatalog.Tree Outline

theorem int64?_toInt (i : Int64) : int64? i.toInt = some i := by
  obtain ⟨n, hn⟩ := exists_int64?_iff.2 ⟨Int64.minValue_le_toInt i, Int64.toInt_le i⟩
  rw [hn, Int64.toInt_inj.1 (int64?_eq_some hn)]

/-- The keys of written entries are texts, and distinct when the entries are in order. -/
theorem distinctKeys_toTreeEntries {entries : Entries Node} (ordered : Entries.Ordered entries) :
    DistinctKeys (Node.toTreeEntries entries) := by
  rw [Node.toTreeEntries_eq_map]
  constructor
  · intro entry hmem
    obtain ⟨original, -, rfl⟩ := List.mem_map.1 hmem
    exact trivial
  · rw [List.pairwise_map]
    apply List.Pairwise.imp _ ordered
    intro a b hlt heq
    rw [Option.some.inj heq] at hlt
    exact String.lt_irrefl b.1 hlt

/-- Entries whose values are parsed back are parsed back. -/
theorem parsesEntries_toTreeEntries {p : Position} {entries : Entries Node}
    (ordered : Entries.Ordered entries)
    (heach : ∀ name n, (name, n) ∈ entries → ∀ q, Node.parse n.toTree q = .ok n.oneNaN) :
    ParsesEntries p (Node.toTreeEntries entries) (Node.entriesOneNaN entries) := by
  apply parsesEntries_iff_mem.2
  refine ⟨distinctKeys_toTreeEntries ordered, Node.entries_ordered_oneNaN.2 ordered, ?_, ?_⟩
  · intro name m hin
    rw [Node.entriesOneNaN_eq_map] at hin
    obtain ⟨⟨name', n⟩, hin', heq⟩ := List.mem_map.1 hin
    obtain ⟨rfl, -⟩ := Prod.mk.inj heq
    exact ⟨.string name', n.toTree, Node.mem_toTreeEntries_iff.2 ⟨name', n, hin', rfl, rfl⟩, rfl⟩
  · intro k t name hmem hk
    obtain ⟨name', n, hin, rfl, rfl⟩ := Node.mem_toTreeEntries_iff.1 hmem
    cases hk
    exact ⟨n.oneNaN, Node.mem_entriesOneNaN hin, heach name n hin _⟩

/-- The written form of a recipe is parsed as the recipe of what its arguments are parsed as. -/
theorem parsesRecipe_toTree {p : Position} {r : Recipe} {written : List (Tree × Tree)}
    (named : Text.isAllBlank r.callable = false) (trimmed : Text.trim r.callable = r.callable)
    (hargs : ParsesEntries (p.key Recipe.argsKey) written r.args) :
    ParsesRecipe p [] [(.string Recipe.callableKey, .string r.callable),
      (.string Recipe.argsKey, .map written)] r where
  keys := by
    refine distinctKeys_cons_iff.2 ⟨trivial, ?_, distinctKeys_cons_iff.2 ⟨trivial, ?_, ?_⟩⟩
    · intro entry hmem heq
      rw [List.mem_singleton.1 hmem] at heq
      exact absurd (Option.some.inj heq) (by decide)
    · intro entry hmem
      exact absurd hmem List.not_mem_nil
    · exact distinctKeys_nil
  name := ⟨r.callable, List.mem_cons_self, named, trimmed.symm⟩
  only := by
    intro entry hmem
    rcases List.mem_cons.1 hmem with rfl | hmem
    · exact ⟨Recipe.callableKey, rfl, .inl rfl⟩
    · rw [List.mem_singleton.1 hmem]
      exact ⟨Recipe.argsKey, rfl, .inr (.inl rfl)⟩
  args := .map (List.mem_cons_of_mem _ List.mem_cons_self) hargs

mutual

/-- A well-formed configuration is parsed back from its written form. -/
theorem parse_toTree : (n : Node) → n.Ordered → n.WellFormed →
    ∀ p, Node.parse n.toTree p = .ok n.oneNaN
  | .null, _, _, _ => rfl
  | .bool _, _, _, _ => rfl
  | .int i, _, _, _ => parse_int_eq_ok_iff.2 ⟨i, int64?_toInt i, rfl⟩
  | .float _, _, _, _ => rfl
  | .string _, _, _, _ => rfl
  | .seq items, ordered, h, p => by
      cases h with
      | seq each =>
          show Outline.node p (.seq (ofTrees (Node.toTrees items))) =
            .ok (.seq (Node.itemsOneNaN items))
          rw [Outline.node, itemNodes_toTrees items ordered each p 0]
  | .map entries, ⟨keys, ordered⟩, h, p => by
      cases h with
      | map data each =>
          apply node_map_eq_ok_iff.2
          -- no key is `callable`, so that the mapping is taken for data
          refine .inl ⟨?_, Node.entriesOneNaN entries, ?_, rfl⟩
          · intro t hmem
            obtain ⟨name, n, hin, hk, -⟩ := Node.mem_toTreeEntries_iff.1 hmem
            cases hk
            exact data (List.mem_map.2 ⟨_, hin, rfl⟩)
          · exact parsesEntries_toTreeEntries keys (parse_toTree_of_mem entries ordered each)
  | .recipe callable args, ⟨keys, ordered⟩, h, p => by
      cases h with
      | recipe named trimmed each =>
          have hargs : ParsesEntries (p.key Recipe.argsKey) (Node.toTreeEntries args)
              (Node.entriesOneNaN args) :=
            parsesEntries_toTreeEntries keys (parse_toTree_of_mem args ordered each)
          have hrecipe : ParsesRecipe p [] _ ⟨callable, Node.entriesOneNaN args⟩ :=
            parsesRecipe_toTree named trimmed hargs
          exact node_map_eq_ok_iff.2 (.inr ⟨_, hrecipe, rfl⟩)

theorem itemNodes_toTrees : (items : List Node) → Node.ItemsOrdered items →
    (∀ n ∈ items, n.WellFormed) →
      ∀ p i, itemNodes p i (ofTrees (Node.toTrees items)) = .ok (Node.itemsOneNaN items)
  | [], _, _, _, _ => rfl
  | n :: rest, ⟨ordered, hrest⟩, each, p, i => by
      obtain ⟨hfirst, hlater⟩ := List.forall_mem_cons.1 each
      apply itemNodes_cons_eq_ok_iff.2
      exact ⟨n.oneNaN, Node.itemsOneNaN rest, parse_toTree n ordered hfirst _,
        itemNodes_toTrees rest hrest hlater p _, rfl⟩

theorem parse_toTree_of_mem : (entries : List (String × Node)) → Node.EntriesOrdered entries →
    (∀ name n, (name, n) ∈ entries → n.WellFormed) →
      ∀ name n, (name, n) ∈ entries → ∀ p, Node.parse n.toTree p = .ok n.oneNaN
  | [], _, _ => fun _ _ hin => absurd hin List.not_mem_nil
  | (_, m) :: rest, ⟨ordered, hrest⟩, each => by
      obtain ⟨hfirst, hlater⟩ := Entries.forall_mem_cons.1 each
      exact Entries.forall_mem_cons.2
        ⟨parse_toTree m ordered hfirst, parse_toTree_of_mem rest hrest hlater⟩

end

/-! ## What is parsed is well formed -/

theorem wellFormed_of_parsesEntries {p : Position} {entries : List (Tree × Tree)}
    {nodes : Entries Node} (h : ParsesEntries p entries nodes)
    (hvalues : ∀ k t, (k, t) ∈ entries → ∀ q n, Node.parse t q = .ok n → n.WellFormed) :
    ∀ name n, (name, n) ∈ nodes → n.WellFormed := by
  intro name n hin
  obtain ⟨k, t, hmem, -, hparse⟩ := h.each hin
  exact hvalues k t hmem _ n hparse

theorem wellFormed_of_parsesRecipe {p : Position} {allowed : List String}
    {entries : List (Tree × Tree)} {r : Recipe} (h : ParsesRecipe p allowed entries r)
    (hvalues : ∀ args k t, (.string Recipe.argsKey, .map args) ∈ entries → (k, t) ∈ args →
      ∀ q n, Node.parse t q = .ok n → n.WellFormed) :
    r.node.WellFormed := by
  obtain ⟨callable, nodes⟩ := r
  obtain ⟨-, ⟨s, -, hblank, hcallable⟩, -, hargs⟩ := h
  dsimp only at hcallable hargs
  subst hcallable
  refine .recipe ?_ (Text.trim_trim s) ?_
  · rw [Text.isAllBlank_trim]
    exact hblank
  · cases hargs with
    | absent free =>
        intro name n hin
        exact absurd hin List.not_mem_nil
    | null found =>
        intro name n hin
        exact absurd hin List.not_mem_nil
    | @map args _ found parses =>
        exact wellFormed_of_parsesEntries parses fun k t hmem => hvalues args k t found hmem

/-- What is parsed from a document is well formed. -/
theorem wellFormed_of_parse (t : Tree) : ∀ p n, Node.parse t p = .ok n → n.WellFormed := by
  induction t using child_induction with
  | step t ih =>
      intro p n h
      cases t with
      | null =>
          cases h
          exact .null
      | bool b =>
          cases h
          exact .bool b
      | float x =>
          cases h
          exact .float x
      | string s =>
          cases h
          exact .string s
      | int i =>
          obtain ⟨k, -, rfl⟩ := parse_int_eq_ok_iff.1 h
          exact .int k
      | tagged tag value => exact ih value .tagged p n h
      | seq items =>
          obtain ⟨nodes, rfl, -⟩ := of_parse_seq h
          refine .seq fun m hmem => ?_
          obtain ⟨u, hu, q, hm⟩ := exists_item_of_parse_seq h hmem
          exact ih u (.item hu) q m hm
      | map entries =>
          rcases node_map_eq_ok_iff.1 h with ⟨hdata, nodes, hnodes, rfl⟩ | ⟨r, hr, rfl⟩
          · refine .map ?_ (wellFormed_of_parsesEntries hnodes fun k u hmem =>
              ih u (.value hdata hmem))
            intro hkey
            -- only the text itself has the text `callable`, and it is no key of the document
            obtain ⟨⟨name, m⟩, hin, rfl⟩ := List.mem_map.1 hkey
            obtain ⟨k, u, hmem, hk, -⟩ := hnodes.each hin
            rw [(keyText?_eq_some_iff isWord_callableKey).1 hk] at hmem
            exact hdata u hmem
          · obtain ⟨s, hname, -⟩ := hr.name
            exact wellFormed_of_parsesRecipe hr fun args k u found hmem =>
              ih u (.argument hname found hmem)

/-- What is parsed has the keys of its mappings in order and is well formed. -/
theorem ordered_wellFormed_of_parse {t : Tree} {p : Position} {n : Node}
    (h : Node.parse t p = .ok n) : n.Ordered ∧ n.WellFormed :=
  ⟨(reads_of_parse t p n h).ordered, wellFormed_of_parse t p n h⟩

/-- The written form of a configuration.  With its entries in the order of their keys a
configuration is parsed back from it, up to which NaN is in it, exactly when it is well formed; and
bit by bit when it has no NaN but the one that is written.  What is parsed from any document is well
formed and in order, and so it survives being written and parsed again. -/
theorem written_form (n : Node) (p : Position) :
    (Node.parse n.toTree p = .ok n.oneNaN ↔ n.Ordered ∧ n.WellFormed) ∧
      (Node.parse n.toTree p = .ok n ↔ n.Ordered ∧ n.WellFormed ∧ n.oneNaN = n) ∧
      ∀ t q, Node.parse t q = .ok n →
        n.Ordered ∧ n.WellFormed ∧ Node.parse n.toTree p = .ok n.oneNaN ∧
          (t.OneNaN → Node.parse n.toTree p = .ok n) := by
  refine ⟨⟨?_, fun h => parse_toTree n h.1 h.2 p⟩, ⟨?_, ?_⟩, ?_⟩
  -- what is parsed is well formed, and a NaN makes no difference to that
  · intro h
    obtain ⟨ordered, wellFormed⟩ := ordered_wellFormed_of_parse h
    exact ⟨(Node.ordered_oneNaN n).1 ordered, (Node.wellFormed_oneNaN n).1 wellFormed⟩
  · intro h
    obtain ⟨ordered, wellFormed⟩ := ordered_wellFormed_of_parse h
    have hback := parse_toTree n ordered wellFormed p
    exact ⟨ordered, wellFormed, Except.ok.inj (hback.symm.trans h)⟩
  · rintro ⟨ordered, wellFormed, hone⟩
    have hback := parse_toTree n ordered wellFormed p
    rwa [hone] at hback
  · intro t q h
    obtain ⟨ordered, wellFormed⟩ := ordered_wellFormed_of_parse h
    have hback := parse_toTree n ordered wellFormed p
    refine ⟨ordered, wellFormed, hback, fun one => ?_⟩
    rwa [(reads_of_parse t q n h).oneNaN_eq one] at hback

/-- A document with blanks around a callable, tags, a number as a key and `callable` as the name of
an argument. -/
def padded : Tree :=
  .map [(.string "out", .tagged "!sink" (.map [
    (.string "args", .map [
      (.string "rows", .seq [.tagged "!row" (.map [(.int 1, .null)])]),
      (.string "callable", .int 1)]),
    (.string "callable", .string "  pkg.make\t")]))]

/-- What `padded` is parsed as. -/
def unpadded : Node :=
  .map [("out", .recipe "pkg.make" [("callable", .int 1), ("rows", .seq [.map [("1", .null)]])])]

theorem written_form_unpadded :
    Node.parse padded Position.root = .ok unpadded ∧ unpadded.Ordered ∧ unpadded.WellFormed ∧
      Node.parse unpadded.toTree Position.root = .ok unpadded := by
  have hparse : Node.parse padded Position.root = .ok unpadded := rfl
  obtain ⟨ordered, wellFormed, hback, -⟩ :=
    (written_form unpadded Position.root).2.2 padded Position.root hparse
  exact ⟨hparse, ordered, wellFormed, hback⟩

end DataCatalog
