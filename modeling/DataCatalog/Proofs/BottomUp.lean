import DataCatalog.Proofs.Evaluation
import Mathlib.Data.List.Nodup

/-!
# Building from the leaves to the root

The recipes of a configuration in postorder (`Node.recipes`): those among the arguments of a recipe
come before the recipe itself.  `resolve_bottom_up` says that building runs the factories of exactly
these recipes, each once and in this order, on the values built from their own arguments, and that a
failure leaves a beginning of the list behind: no recipe inside one that cannot be found has run.
-/

set_option autoImplicit false

namespace DataCatalog

namespace Node

mutual

/-- The recipes of the configuration at a position, in postorder, with their positions. -/
def recipes (p : Position) : Node → List (Position × Recipe)
  | .seq items => itemRecipes p 0 items
  | .map entries => entryRecipes p entries
  | .recipe callable args =>
      entryRecipes (p.key Recipe.argsKey) args ++ [(p, ⟨callable, args⟩)]
  | _ => []

def itemRecipes (p : Position) (i : Nat) : List Node → List (Position × Recipe)
  | [] => []
  | n :: rest => recipes (p.index i) n ++ itemRecipes p (i + 1) rest

def entryRecipes (p : Position) : List (String × Node) → List (Position × Recipe)
  | [] => []
  | (k, n) :: rest => recipes (p.key k) n ++ entryRecipes p rest

end

mutual

/-- The recipes in postorder are the calls in the order of evaluation. -/
theorem recipes_eq_filterMap (p : Position) :
    (n : Node) → n.recipes p = (n.actions p).filterMap Action.called?
  | .null => rfl
  | .bool _ => rfl
  | .int _ => rfl
  | .float _ => rfl
  | .string _ => rfl
  | .seq items => itemRecipes_eq_filterMap p 0 items
  | .map entries => entryRecipes_eq_filterMap p entries
  | .recipe callable args => by
      unfold recipes actions
      rw [entryRecipes_eq_filterMap _ args, List.filterMap_cons, List.filterMap_append]
      rfl

theorem itemRecipes_eq_filterMap (p : Position) (i : Nat) : (items : List Node) →
    itemRecipes p i items = (itemActions p i items).filterMap Action.called?
  | [] => rfl
  | n :: rest => by
      simp [itemRecipes, itemActions, recipes_eq_filterMap _ n, itemRecipes_eq_filterMap p _ rest]

theorem entryRecipes_eq_filterMap (p : Position) : (entries : List (String × Node)) →
    entryRecipes p entries = (entryActions p entries).filterMap Action.called?
  | [] => rfl
  | (k, n) :: rest => by
      simp [entryRecipes, entryActions, recipes_eq_filterMap _ n, entryRecipes_eq_filterMap p rest]

end

mutual

/-- Every action of an evaluation is the search for a recipe's factory or its call. -/
theorem exists_recipe_of_mem_actions {a : Action} {p : Position} : (n : Node) → a ∈ n.actions p →
    ∃ q r, (q, r) ∈ n.recipes p ∧ (a = .find .factory q r ∨ a = .call q r)
  | .null, h => by simp [actions] at h
  | .bool _, h => by simp [actions] at h
  | .int _, h => by simp [actions] at h
  | .float _, h => by simp [actions] at h
  | .string _, h => by simp [actions] at h
  | .seq items, h => exists_recipe_of_mem_itemActions 0 items h
  | .map entries, h => exists_recipe_of_mem_entryActions entries h
  | .recipe callable args, h => by
      have hself : (p, ⟨callable, args⟩) ∈ recipes p (.recipe callable args) :=
        List.mem_append_right _ (List.mem_singleton.2 rfl)
      simp only [actions, List.mem_cons, List.mem_append, List.not_mem_nil, or_false] at h
      rcases h with rfl | h | rfl
      · exact ⟨p, ⟨callable, args⟩, hself, .inl rfl⟩
      · obtain ⟨q, r, hmem, ha⟩ := exists_recipe_of_mem_entryActions args h
        exact ⟨q, r, List.mem_append_left _ hmem, ha⟩
      · exact ⟨p, ⟨callable, args⟩, hself, .inr rfl⟩

theorem exists_recipe_of_mem_itemActions {a : Action} {p : Position} (i : Nat) :
    (items : List Node) → a ∈ itemActions p i items →
      ∃ q r, (q, r) ∈ itemRecipes p i items ∧ (a = .find .factory q r ∨ a = .call q r)
  | [], h => by simp [itemActions] at h
  | n :: rest, h => by
      rcases List.mem_append.1 h with h | h
      · obtain ⟨q, r, hmem, ha⟩ := exists_recipe_of_mem_actions n h
        exact ⟨q, r, List.mem_append_left _ hmem, ha⟩
      · obtain ⟨q, r, hmem, ha⟩ := exists_recipe_of_mem_itemActions (i + 1) rest h
        exact ⟨q, r, List.mem_append_right _ hmem, ha⟩

theorem exists_recipe_of_mem_entryActions {a : Action} {p : Position} :
    (entries : List (String × Node)) → a ∈ entryActions p entries →
      ∃ q r, (q, r) ∈ entryRecipes p entries ∧ (a = .find .factory q r ∨ a = .call q r)
  | [], h => by simp [entryActions] at h
  | (k, n) :: rest, h => by
      rcases List.mem_append.1 h with h | h
      · obtain ⟨q, r, hmem, ha⟩ := exists_recipe_of_mem_actions n h
        exact ⟨q, r, List.mem_append_left _ hmem, ha⟩
      · obtain ⟨q, r, hmem, ha⟩ := exists_recipe_of_mem_entryActions rest h
        exact ⟨q, r, List.mem_append_right _ hmem, ha⟩

end

theorem kind_of_mem_actions {a : Action} {p : Position} {n : Node} (h : a ∈ n.actions p) :
    a.kind = .factory := by
  obtain ⟨q, r, -, rfl | rfl⟩ := exists_recipe_of_mem_actions n h
  · rfl
  · rfl

theorem mem_recipes_of_find {p q : Position} {r : Recipe} {n : Node}
    (h : .find .factory q r ∈ n.actions p) : (q, r) ∈ n.recipes p := by
  obtain ⟨q', r', hmem, ha | ha⟩ := exists_recipe_of_mem_actions n h
  · cases ha
    exact hmem
  · cases ha

/-! ## Every recipe once -/

/-- Two actions at one position are the search for a callable and, later, its call. -/
def SearchThenCall (a later : Action) : Prop :=
  a.position = later.position → a.called? = none ∧ later.called? ≠ none

mutual

theorem pairwise_actions (p : Position) :
    (n : Node) → n.Ordered → (n.actions p).Pairwise SearchThenCall
  | .null, _ => List.Pairwise.nil
  | .bool _, _ => List.Pairwise.nil
  | .int _, _ => List.Pairwise.nil
  | .float _, _ => List.Pairwise.nil
  | .string _, _ => List.Pairwise.nil
  | .seq items, ordered => pairwise_itemActions p 0 items ordered
  | .map entries, ordered => pairwise_entryActions p entries ordered.1 ordered.2
  | .recipe callable args, ordered => by
      have hargs := pairwise_entryActions (p.key Recipe.argsKey) args ordered.1 ordered.2
      -- all that happens between the search and the call happens further down
      have hbelow : ∀ a ∈ entryActions (p.key Recipe.argsKey) args, a.position ≠ p := by
        intro a hmem heq
        exact Position.not_step_prefix p _ (heq ▸ prefix_position_of_mem_entryActions hmem)
      unfold actions
      rw [List.pairwise_cons, List.pairwise_append]
      refine ⟨?_, hargs, List.pairwise_singleton _ _, ?_⟩
      · intro a hmem heq
        rcases List.mem_append.1 hmem with hmem | hmem
        · exact absurd heq.symm (hbelow a hmem)
        · rw [List.mem_singleton.1 hmem]
          simp [Action.called?]
      · intro a hmem later hlater heq
        rw [List.mem_singleton.1 hlater] at heq
        exact absurd heq (hbelow a hmem)

theorem pairwise_itemActions (p : Position) (i : Nat) : (items : List Node) →
    ItemsOrdered items → (itemActions p i items).Pairwise SearchThenCall
  | [], _ => List.Pairwise.nil
  | n :: rest, ordered => by
      unfold itemActions
      rw [List.pairwise_append]
      refine ⟨pairwise_actions _ n ordered.1, pairwise_itemActions p (i + 1) rest ordered.2, ?_⟩
      intro a hmem later hlater heq
      -- a common position would lie under two indices
      have ha := prefix_of_mem_actions (p.index i) n hmem
      obtain ⟨j, hle, hj⟩ := prefix_of_mem_itemActions p (i + 1) rest hlater
      rw [← heq] at hj
      have hij := Position.index_unique ha hj
      omega

theorem pairwise_entryActions (p : Position) : (entries : List (String × Node)) →
    Entries.Ordered entries → EntriesOrdered entries →
      (entryActions p entries).Pairwise SearchThenCall
  | [], _, _ => List.Pairwise.nil
  | (k, n) :: rest, keys, ordered => by
      have hnodup : k ∉ Entries.keys rest := (List.nodup_cons.1 (Entries.keys_nodup keys)).1
      have hrest := pairwise_entryActions p rest (List.pairwise_cons.1 keys).2 ordered.2
      unfold entryActions
      rw [List.pairwise_append]
      refine ⟨pairwise_actions _ n ordered.1, hrest, ?_⟩
      intro a hmem later hlater heq
      -- a common position would lie under two keys
      have ha := prefix_of_mem_actions (p.key k) n hmem
      obtain ⟨l, hl, hprefix⟩ := prefix_of_mem_entryActions p rest hlater
      rw [← heq] at hprefix
      exact absurd hl (Position.key_unique ha hprefix ▸ hnodup)

end

theorem actions_nodup (p : Position) {n : Node} (ordered : n.Ordered) : (n.actions p).Nodup := by
  apply List.Pairwise.imp _ (pairwise_actions p n ordered)
  intro a later h heq
  subst heq
  obtain ⟨hnone, hsome⟩ := h rfl
  exact hsome hnone

/-- No two recipes of a configuration have the same position. -/
theorem recipes_positions_nodup (p : Position) {n : Node} (ordered : n.Ordered) :
    ((n.recipes p).map Prod.fst).Nodup := by
  rw [recipes_eq_filterMap, List.Nodup, List.pairwise_map]
  apply List.Pairwise.filterMap _ _ (pairwise_actions p n ordered)
  intro a later h first hfirst second hsecond heq
  have hposition (action : Action) (called : Position × Recipe)
      (hcalled : action.called? = some called) : action.position = called.1 := by
    cases action with
    | find kind q r => simp [Action.called?] at hcalled
    | call q r =>
        simp only [Action.called?, Option.some.injEq] at hcalled
        rw [← hcalled]
        rfl
    | judge q r => simp [Action.called?] at hcalled
  -- of two actions at one position the first is no call
  have hsame : a.position = later.position := by
    rw [hposition a first hfirst, hposition later second hsecond, heq]
  simp [(h hsame).1] at hfirst

theorem recipes_nodup (p : Position) {n : Node} (ordered : n.Ordered) : (n.recipes p).Nodup :=
  List.Nodup.of_map Prod.fst (recipes_positions_nodup p ordered)

mutual

/-- A recipe is searched for, then its arguments are evaluated, then it is called. -/
theorem exists_actions_eq {p q : Position} {r : Recipe} : (n : Node) → (q, r) ∈ n.recipes p →
    ∃ before after, n.actions p = before ++ .find .factory q r ::
      (entryActions (q.key Recipe.argsKey) r.args ++ .call q r :: after)
  | .null, h => by simp [recipes] at h
  | .bool _, h => by simp [recipes] at h
  | .int _, h => by simp [recipes] at h
  | .float _, h => by simp [recipes] at h
  | .string _, h => by simp [recipes] at h
  | .seq items, h => exists_itemActions_eq 0 items h
  | .map entries, h => exists_entryActions_eq entries h
  | .recipe callable args, h => by
      unfold actions
      rcases List.mem_append.1 h with h | h
      · -- a recipe among the arguments stays inside the bracket of the outer one
        obtain ⟨before, after, heq⟩ := exists_entryActions_eq args h
        rw [heq]
        exact ⟨.find .factory p ⟨callable, args⟩ :: before, after ++ [.call p ⟨callable, args⟩],
          by simp⟩
      · -- the recipe itself is the whole list
        cases List.mem_singleton.1 h
        exact ⟨[], [], rfl⟩

theorem exists_itemActions_eq {p q : Position} {r : Recipe} (i : Nat) :
    (items : List Node) → (q, r) ∈ itemRecipes p i items →
      ∃ before after, itemActions p i items = before ++ .find .factory q r ::
        (entryActions (q.key Recipe.argsKey) r.args ++ .call q r :: after)
  | [], h => by simp [itemRecipes] at h
  | n :: rest, h => by
      rw [itemActions]
      rcases List.mem_append.1 h with h | h
      · obtain ⟨before, after, heq⟩ := exists_actions_eq n h
        exact ⟨before, after ++ itemActions p (i + 1) rest, by simp [heq]⟩
      · obtain ⟨before, after, heq⟩ := exists_itemActions_eq (i + 1) rest h
        exact ⟨actions (p.index i) n ++ before, after, by simp [heq]⟩

theorem exists_entryActions_eq {p q : Position} {r : Recipe} :
    (entries : List (String × Node)) → (q, r) ∈ entryRecipes p entries →
      ∃ before after, entryActions p entries = before ++ .find .factory q r ::
        (entryActions (q.key Recipe.argsKey) r.args ++ .call q r :: after)
  | [], h => by simp [entryRecipes] at h
  | (k, n) :: rest, h => by
      rw [entryActions]
      rcases List.mem_append.1 h with h | h
      · obtain ⟨before, after, heq⟩ := exists_actions_eq n h
        exact ⟨before, after ++ entryActions p rest, by simp [heq]⟩
      · obtain ⟨before, after, heq⟩ := exists_entryActions_eq rest h
        exact ⟨actions (p.key k) n ++ before, after, by simp [heq]⟩

end

theorem called_bracket (front inside back : List Action) (q : Position) (r : Recipe) :
    (front ++ .find .factory q r :: (inside ++ .call q r :: back)).filterMap Action.called? =
      front.filterMap Action.called? ++
        (inside.filterMap Action.called? ++ (q, r) :: back.filterMap Action.called?) := by
  simp only [List.filterMap_append, List.filterMap_cons, Action.called?]

mutual

/-- The arguments of every recipe have their names in increasing order. -/
theorem ordered_args_of_mem_recipes {p q : Position} {r : Recipe} : (n : Node) → n.Ordered →
    (q, r) ∈ n.recipes p → Entries.Ordered r.args
  | .null, _, h => by simp [recipes] at h
  | .bool _, _, h => by simp [recipes] at h
  | .int _, _, h => by simp [recipes] at h
  | .float _, _, h => by simp [recipes] at h
  | .string _, _, h => by simp [recipes] at h
  | .seq items, ordered, h => ordered_args_of_mem_itemRecipes 0 items ordered h
  | .map entries, ordered, h => ordered_args_of_mem_entryRecipes entries ordered.2 h
  | .recipe callable args, ordered, h => by
      rcases List.mem_append.1 h with h | h
      · exact ordered_args_of_mem_entryRecipes args ordered.2 h
      · cases List.mem_singleton.1 h
        exact ordered.1

theorem ordered_args_of_mem_itemRecipes {p q : Position} {r : Recipe} (i : Nat) :
    (items : List Node) → ItemsOrdered items → (q, r) ∈ itemRecipes p i items →
      Entries.Ordered r.args
  | [], _, h => by simp [itemRecipes] at h
  | n :: rest, ordered, h => by
      rcases List.mem_append.1 h with h | h
      · exact ordered_args_of_mem_recipes n ordered.1 h
      · exact ordered_args_of_mem_itemRecipes (i + 1) rest ordered.2 h

theorem ordered_args_of_mem_entryRecipes {p q : Position} {r : Recipe} :
    (entries : List (String × Node)) → EntriesOrdered entries → (q, r) ∈ entryRecipes p entries →
      Entries.Ordered r.args
  | [], _, h => by simp [entryRecipes] at h
  | (k, n) :: rest, ordered, h => by
      rcases List.mem_append.1 h with h | h
      · exact ordered_args_of_mem_recipes n ordered.1 h
      · exact ordered_args_of_mem_entryRecipes rest ordered.2 h

end

theorem entryImages_eq_mapValues (built : Position → Value) (p : Position)
    (entries : Entries Node) :
    entryImages built p entries =
      Entries.mapValues (fun k n => n.image built (p.key k)) entries := by
  induction entries with
  | nil => rfl
  | cons head rest ih =>
      unfold entryImages
      rw [ih]
      rfl

end Node

namespace Builder

open Node

/-- Under the name of an argument a recipe is given what was built from that argument. -/
theorem get?_arguments {m : Type → Type} (b : Builder m) (built : Position → Value) (p : Position)
    {r : Recipe} (ordered : Entries.Ordered r.args) (name : String) :
    (b.arguments built p r).explicit.get? name =
      (Entries.get? name r.args).map fun n =>
        n.image built ((p.key Recipe.argsKey).key name) := by
  unfold arguments
  rw [entryImages_eq_mapValues,
    Dict.get?_ofList_of_ordered (Entries.ordered_mapValues _ ordered), Entries.get?_mapValues]

/-- The event of a recipe whose factory gave the value in a table. -/
def callEvent {m : Type → Type} (b : Builder m) (built : Position → Value)
    (called : Position × Recipe) : Event :=
  .built called.2.callable (b.arguments built called.1 called.2) (.ok (built called.1))

/-- Factory actions that succeed find their callables and leave the events of their calls. -/
theorem PerformsAll.of_factories {m : Type → Type} {b : Builder m} {built : Position → Value}
    {actions : List Action} {events : List Event} (h : b.PerformsAll built actions events)
    (factories : ∀ a ∈ actions, a.kind = .factory) :
    events = (actions.filterMap Action.called?).map (b.callEvent built) ∧
      ∀ q r, .find .factory q r ∈ actions →
        ∃ run, b.registry.resolveFactory r.callable = .ok run := by
  induction h with
  | nil => exact ⟨rfl, fun q r hmem => by simp at hmem⟩
  | @cons a rest first later head tail ih =>
      obtain ⟨hevents, hfound⟩ := ih fun a hmem => factories a (List.mem_cons_of_mem _ hmem)
      have hkind := factories a List.mem_cons_self
      cases head with
      | @factory p r run found =>
          refine ⟨hevents, fun q r' hmem => ?_⟩
          rcases List.mem_cons.1 hmem with heq | hmem
          · cases heq
            exact ⟨run, found⟩
          · exact hfound q r' hmem
      | validator found => simp [Action.kind] at hkind
      | @call p r =>
          refine ⟨?_, fun q r' hmem => ?_⟩
          · rw [hevents]
            rfl
          · exact hfound q r' (by simpa using hmem)
      | judge => simp [Action.kind] at hkind

/-- As long as only callables that exist were searched for, no recipe has run inside one whose
callable does not exist. -/
theorem not_called_of_missing {m : Type → Type} {b : Builder m} {p : Position} {n : Node}
    (ordered : n.Ordered) {before after : List Action} (hsplit : n.actions p = before ++ after)
    (found : ∀ q r, .find .factory q r ∈ before →
      ∃ run, b.registry.resolveFactory r.callable = .ok run)
    {q : Position} {r : Recipe} (hmem : (q, r) ∈ n.recipes p) {e : ReferenceError}
    (missing : b.registry.resolveFactory r.callable = .error e) :
    ∀ inner ∈ entryRecipes (q.key Recipe.argsKey) r.args,
      inner ∉ before.filterMap Action.called? := by
  intro inner hinner hcalled
  obtain ⟨front, back, hbracket⟩ := exists_actions_eq n hmem
  -- a search that was performed has found its callable
  have hunsearched : .find .factory q r ∉ before := by
    intro hfind
    obtain ⟨run, hrun⟩ := found q r hfind
    rw [missing] at hrun
    cases hrun
  -- what was done so far lies before the search for the missing callable
  have hbegins : before <+: front := by
    rcases List.append_eq_append_iff.1 (hsplit.symm.trans hbracket) with
      ⟨between, hfront, -⟩ | ⟨between, hbefore, htail⟩
    · exact ⟨between, hfront.symm⟩
    · cases between with
      | nil => exact ⟨[], by simpa using hbefore⟩
      | cons a rest =>
          have ha : .find .factory q r = a := (List.cons.inj htail).1
          rw [hbefore, ← ha] at hunsearched
          simp at hunsearched
  have hnodup := recipes_nodup p ordered
  rw [recipes_eq_filterMap, hbracket, called_bracket] at hnodup
  -- the inner recipe would be called before the search, and again after it
  have hfront : inner ∈ front.filterMap Action.called? :=
    (hbegins.filterMap Action.called?).subset hcalled
  refine (List.nodup_append.1 hnodup).2.2 inner hfront inner ?_ rfl
  rw [entryRecipes_eq_filterMap] at hinner
  exact List.mem_append_left _ hinner

/-- After the recipes called before the search for one, the recipes among its arguments are next,
and then the recipe itself. -/
theorem called_append_args_prefix {p q : Position} {r : Recipe} {n : Node} (ordered : n.Ordered)
    {before after : List Action} (hsplit : n.actions p = before ++ .find .factory q r :: after) :
    before.filterMap Action.called? ++ (entryRecipes (q.key Recipe.argsKey) r.args ++ [(q, r)]) <+:
      n.recipes p := by
  have hmem : (q, r) ∈ n.recipes p :=
    mem_recipes_of_find (hsplit ▸ List.mem_append_right _ List.mem_cons_self)
  obtain ⟨front, back, hbracket⟩ := exists_actions_eq n hmem
  have hnodup := actions_nodup p ordered
  rw [hbracket] at hnodup
  have hparts := List.nodup_append.1 hnodup
  have hback : .find .factory q r ∉ entryActions (q.key Recipe.argsKey) r.args ++
      .call q r :: back := (List.nodup_cons.1 hparts.2.1).1
  have hfront : .find .factory q r ∉ front := fun hfind =>
    hparts.2.2 _ hfind _ List.mem_cons_self rfl
  -- the search for a recipe occurs once, so that the two ways to split there agree
  obtain ⟨rfl, -, rfl⟩ :=
    (List.append_cons_inj_of_notMem hfront hback).1 (hbracket.symm.trans hsplit)
  refine ⟨back.filterMap Action.called?, ?_⟩
  rw [recipes_eq_filterMap, hbracket, entryRecipes_eq_filterMap, called_bracket]
  simp

/-- What a failure leaves behind: the calls of a beginning of the recipes, the last of them failed
or the next recipe to be searched for not found. -/
theorem exists_invoked_of_stops {m : Type → Type} {b : Builder m} {built : Position → Value}
    {p : Position} {n : Node} (ordered : n.Ordered) {events : List Event} {e : CatalogError}
    (h : b.Stops built (n.actions p) events e) :
    ∃ invoked, invoked <+: n.recipes p ∧
      (∀ q r e, (q, r) ∈ n.recipes p → b.registry.resolveFactory r.callable = .error e →
        ∀ inner ∈ entryRecipes (q.key Recipe.argsKey) r.args, inner ∉ invoked) ∧
      ((∃ before q r failure, e = .invocation q r.callable failure ∧ invoked = before ++ [(q, r)] ∧
          events = before.map (b.callEvent built) ++
            [.built r.callable (b.arguments built q r) (.error failure)]) ∨
        (∃ q r failure, e = .reference q failure ∧
          b.registry.resolveFactory r.callable = .error failure ∧
          events = invoked.map (b.callEvent built) ∧
          invoked ++ (entryRecipes (q.key Recipe.argsKey) r.args ++ [(q, r)]) <+: n.recipes p)) := by
  generalize hactions : n.actions p = actions at h
  cases h with
  | @intro before after a first last e performed failed =>
      have hkind : ∀ action ∈ before ++ a :: after, action.kind = .factory := by
        intro action hmem
        exact kind_of_mem_actions (hactions ▸ hmem)
      obtain ⟨hevents, hfound⟩ := performed.of_factories fun action hmem =>
        hkind action (List.mem_append_left _ hmem)
      have hrecipes : n.recipes p =
          before.filterMap Action.called? ++ (a :: after).filterMap Action.called? := by
        rw [recipes_eq_filterMap, hactions, List.filterMap_append]
      cases failed with
      | @factory q r failure missing =>
          -- a search failed: its recipe is the next one, and nothing in it was called
          refine ⟨before.filterMap Action.called?, ?_, ?_,
            .inr ⟨q, r, failure, rfl, missing, ?_, ?_⟩⟩
          · exact hrecipes ▸ List.prefix_append _ _
          · intro q' r' e' hmem hmissing
            exact not_called_of_missing ordered hactions hfound hmem hmissing
          · rw [List.append_nil, hevents]
          · exact called_append_args_prefix ordered hactions
      | @validator q r failure missing =>
          -- building searches for no validators
          have hvalidator := hkind _ (List.mem_append_right _ List.mem_cons_self)
          cases hvalidator
      | @call q r failure =>
          -- a call failed: its recipe is the last one called
          refine ⟨before.filterMap Action.called? ++ [(q, r)], ?_, ?_,
            .inl ⟨before.filterMap Action.called?, q, r, failure, rfl, rfl, ?_⟩⟩
          · rw [hrecipes, List.filterMap_cons]
            exact ⟨after.filterMap Action.called?, by simp [Action.called?]⟩
          · intro q' r' e' hmem hmissing
            have hsplit : n.actions p = (before ++ [.call q r]) ++ after := by
              rw [hactions, List.append_assoc]
              rfl
            have hcalled :=
              not_called_of_missing ordered hsplit (fun q' r' hmem => ?_) hmem hmissing
            · simpa [Action.called?] using hcalled
            · exact hfound q' r' (by simpa using hmem)
          · rw [hevents]

/-- Building goes from the leaves to the root.  A success has run the factories of exactly the
recipes of the configuration, each once, in postorder, and each on the values of its own arguments.
A failure has run those of a beginning of the list: the failing factory is the last of them, or the
callable of the next recipe was not found.  Inside a recipe whose callable is missing nothing
runs. -/
theorem resolve_bottom_up {σ : Type} (b : Builder (StateM σ)) (p : Position) (n : Node)
    (ordered : n.Ordered) (s : σ) :
    let run := observe (b.recorded.resolve p n) s
    (b.resolve p n).run.run s = (run.outcome, run.state) ∧
    ((n.recipes p).map Prod.fst).Nodup ∧
    ∃ (built : Position → Value) (invoked : List (Position × Recipe)),
      invoked <+: n.recipes p ∧
      (∀ q r name, (q, r) ∈ n.recipes p →
        (b.arguments built q r).explicit.get? name = (Entries.get? name r.args).map fun arg =>
          arg.image built ((q.key Recipe.argsKey).key name)) ∧
      (∀ q r e, (q, r) ∈ n.recipes p → b.registry.resolveFactory r.callable = .error e →
        ∀ inner ∈ entryRecipes (q.key Recipe.argsKey) r.args, inner ∉ invoked) ∧
      (∀ v, run.outcome = .ok v →
        v = n.image built p ∧ invoked = n.recipes p ∧
          run.events = invoked.map (b.callEvent built)) ∧
      ∀ e, run.outcome = .error e →
        (∃ before q r failure, e = .invocation q r.callable failure ∧ invoked = before ++ [(q, r)] ∧
          run.events = before.map (b.callEvent built) ++
            [.built r.callable (b.arguments built q r) (.error failure)]) ∨
        (∃ q r failure, e = .reference q failure ∧
          b.registry.resolveFactory r.callable = .error failure ∧
          run.events = invoked.map (b.callEvent built) ∧
          invoked ++ (entryRecipes (q.key Recipe.argsKey) r.args ++ [(q, r)]) <+: n.recipes p) := by
  intro run
  have hplain : (b.resolve p n).run.run s = (run.outcome, run.state) := by
    rw [← forget_resolve]
    rfl
  refine ⟨hplain, recipes_positions_nodup p ordered, ?_⟩
  -- one table serves both outcomes: it has the values of all recipes that were built
  obtain ⟨built, -, hfollows⟩ := follows_resolve b p n ordered (fun _ => .null) s
  have hgiven (q : Position) (r : Recipe) (name : String) (hmem : (q, r) ∈ n.recipes p) :=
    b.get?_arguments built q (ordered_args_of_mem_recipes n ordered hmem) name
  cases hout : run.outcome with
  | ok v =>
      obtain ⟨hvalue, hperformed⟩ := hfollows.of_ok hout
      obtain ⟨hevents, hfound⟩ := hperformed.of_factories fun a hmem => kind_of_mem_actions hmem
      rw [← recipes_eq_filterMap] at hevents
      refine ⟨built, n.recipes p, List.prefix_refl _, hgiven, ?_, ?_, ?_⟩
      · intro q r e hmem missing
        rw [recipes_eq_filterMap]
        exact not_called_of_missing ordered (List.append_nil _).symm hfound hmem missing
      · intro v' hv'
        cases hv'
        exact ⟨hvalue, rfl, hevents⟩
      · intro e he
        cases he
  | error e =>
      obtain ⟨invoked, hprefix, hinner, hfailure⟩ :=
        exists_invoked_of_stops ordered (hfollows.of_error hout)
      refine ⟨built, invoked, hprefix, hgiven, hinner, ?_, ?_⟩
      · intro v hv
        cases hv
      · intro e' he'
        cases he'
        exact hfailure

/-- Two callables that give the number of calls before them. -/
def ticking : Builder (StateM Nat) :=
  let tick : Callable (StateM Nat) := .factory fun _ => do
    let n ← (get : StateM Nat Nat)
    set (n + 1)
    return .int (Int64.ofNat n)
  ⟨Registry.empty.registerAll [("inner", tick), ("outer", tick)], Dict.empty⟩

/-- A recipe with a recipe for its first argument and another one in a list for its second. -/
def nested : Node :=
  .recipe "outer" [("a", .recipe "inner" []), ("b", .seq [.recipe "inner" []])]

/-- The outer recipe of three runs last. -/
theorem resolve_bottom_up_nested :
    nested.Ordered ∧ ∃ built : Position → Value, built [] = .int 2 ∧
      (observe (ticking.recorded.resolve [] nested) 0).events =
        [.built "inner" (ticking.arguments built [.key "args", .key "a"] ⟨"inner", []⟩)
            (.ok (built [.key "args", .key "a"])),
          .built "inner" (ticking.arguments built [.key "args", .key "b", .index 0] ⟨"inner", []⟩)
            (.ok (built [.key "args", .key "b", .index 0])),
          .built "outer" (ticking.arguments built []
              ⟨"outer", [("a", .recipe "inner" []), ("b", .seq [.recipe "inner" []])]⟩)
            (.ok (built []))] := by
  have inner : Node.Ordered (.recipe "inner" []) := ⟨Entries.ordered_nil, trivial⟩
  have keys : Entries.Ordered [("a", Node.recipe "inner" []), ("b", .seq [.recipe "inner" []])] :=
    List.pairwise_pair.2 (by decide)
  have ordered : nested.Ordered := ⟨keys, inner, ⟨inner, trivial⟩, trivial⟩
  refine ⟨ordered, ?_⟩
  obtain ⟨-, -, built, invoked, -, -, -, hok, -⟩ := resolve_bottom_up ticking [] nested ordered 0
  obtain ⟨hvalue, rfl, hevents⟩ := hok (.int 2) rfl
  exact ⟨built, hvalue.symm, hevents⟩

end Builder

end DataCatalog
