import DataCatalog.Proofs.Recording

/-!
# The order of evaluation

A configuration is evaluated by a list of actions that its shape alone determines (`Node.actions`):
the callable of a recipe is found, then the recipe's arguments are evaluated, then the callable
runs.  Elements are visited by index and entries in the order of their keys.

Main statement: `follows_resolve` says that building follows this list.  It performs every action,
or stops at the first one that fails; on the way it fills a table of the values that the recipes
gave, and every call receives what the table says of its own arguments.
-/

set_option autoImplicit false

namespace DataCatalog

/-- One thing done for a recipe during an evaluation. -/
inductive Action where
  /-- The callable of the recipe at a position is looked up. -/
  | find (kind : CallableKind) (position : Position) (recipe : Recipe)
  /-- The factory of the recipe at a position runs. -/
  | call (position : Position) (recipe : Recipe)
  /-- The validator of the recipe at a position runs. -/
  | judge (position : Position) (recipe : Recipe)

namespace Action

/-- The position of the recipe that an action is about. -/
def position : Action → Position
  | .find _ p _ => p
  | .call p _ => p
  | .judge p _ => p

/-- The recipe that an action is about. -/
def recipe : Action → Recipe
  | .find _ _ r => r
  | .call _ r => r
  | .judge _ r => r

/-- What the recipe of an action is to be. -/
def kind : Action → CallableKind
  | .find kind _ _ => kind
  | .call _ _ => .factory
  | .judge _ _ => .validator

/-- The recipe that an action builds. -/
def called? : Action → Option (Position × Recipe)
  | .call p r => some (p, r)
  | _ => none

/-- The positions whose values an action deals with: its own and those among its arguments. -/
def Concerns (a : Action) (q : Position) : Prop :=
  q = a.position ∨ a.position.key Recipe.argsKey <+: q

theorem Concerns.isPrefix {a : Action} {q : Position} (h : a.Concerns q) : a.position <+: q := by
  rcases h with rfl | h
  · exact List.prefix_refl _
  · exact (List.prefix_append _ _).trans h

end Action

namespace Position

theorem prefix_key (p : Position) (name : String) : p <+: p.key name := List.prefix_append _ _

theorem prefix_index (p : Position) (i : Nat) : p <+: p.index i := List.prefix_append _ _

/-- What lies under two steps from one position lies under one step. -/
theorem step_unique {p q : Position} {a b : Step} (ha : p ++ [a] <+: q) (hb : p ++ [b] <+: q) :
    a = b := by
  -- both lie on the way to `q` and have the same length
  have hlength : (p ++ [a]).length = (p ++ [b]).length := by simp
  have heq := (List.prefix_of_prefix_length_le ha hb (Nat.le_of_eq hlength)).eq_of_length hlength
  simpa using heq

theorem index_unique {p q : Position} {i j : Nat} (hi : p.index i <+: q) (hj : p.index j <+: q) :
    i = j := by
  simpa using step_unique hi hj

theorem key_unique {p q : Position} {k l : String} (hk : p.key k <+: q) (hl : p.key l <+: q) :
    k = l := by
  simpa using step_unique hk hl

/-- Nothing lies under a step from a position and is the position. -/
theorem not_step_prefix (p : Position) (a : Step) : ¬p ++ [a] <+: p := by
  intro h
  have hlength := h.length_le
  rw [List.length_append, List.length_singleton] at hlength
  omega

end Position

namespace Node

mutual

/-- Every mapping of a configuration has its keys in increasing order. -/
def Ordered : Node → Prop
  | .seq items => ItemsOrdered items
  | .map entries => Entries.Ordered entries ∧ EntriesOrdered entries
  | .recipe _ args => Entries.Ordered args ∧ EntriesOrdered args
  | _ => True

def ItemsOrdered : List Node → Prop
  | [] => True
  | n :: rest => Ordered n ∧ ItemsOrdered rest

def EntriesOrdered : List (String × Node) → Prop
  | [] => True
  | (_, n) :: rest => Ordered n ∧ EntriesOrdered rest

end

mutual

/-- The actions that evaluate the configuration at a position, in order. -/
def actions (p : Position) : Node → List Action
  | .seq items => itemActions p 0 items
  | .map entries => entryActions p entries
  | .recipe callable args =>
      .find .factory p ⟨callable, args⟩ ::
        (entryActions (p.key Recipe.argsKey) args ++ [.call p ⟨callable, args⟩])
  | _ => []

def itemActions (p : Position) (i : Nat) : List Node → List Action
  | [] => []
  | n :: rest => actions (p.index i) n ++ itemActions p (i + 1) rest

def entryActions (p : Position) : List (String × Node) → List Action
  | [] => []
  | (k, n) :: rest => actions (p.key k) n ++ entryActions p rest

end

mutual

/-- The value of the configuration at a position, where a table gives the values of the recipes. -/
def image (built : Position → Value) (p : Position) : Node → Value
  | .null => .null
  | .bool v => .bool v
  | .int i => .int i
  | .float x => .float x
  | .string s => .string s
  | .seq items => .list (itemImages built p 0 items)
  | .map entries => .map (entryImages built p entries)
  | .recipe _ _ => built p

def itemImages (built : Position → Value) (p : Position) (i : Nat) : List Node → List Value
  | [] => []
  | n :: rest => image built (p.index i) n :: itemImages built p (i + 1) rest

def entryImages (built : Position → Value) (p : Position) :
    List (String × Node) → List (String × Value)
  | [] => []
  | (k, n) :: rest => (k, image built (p.key k) n) :: entryImages built p rest

end

/-! ## Where the actions are -/

mutual

theorem prefix_of_mem_actions {a : Action} (p : Position) :
    (n : Node) → a ∈ n.actions p → p <+: a.position
  | .null, h => by simp [actions] at h
  | .bool _, h => by simp [actions] at h
  | .int _, h => by simp [actions] at h
  | .float _, h => by simp [actions] at h
  | .string _, h => by simp [actions] at h
  | .seq items, h => by
      obtain ⟨j, -, hj⟩ := prefix_of_mem_itemActions p 0 items h
      exact (p.prefix_index j).trans hj
  | .map entries, h => by
      obtain ⟨k, -, hk⟩ := prefix_of_mem_entryActions p entries h
      exact (p.prefix_key k).trans hk
  | .recipe callable args, h => by
      simp only [actions, List.mem_cons, List.mem_append, List.not_mem_nil, or_false] at h
      rcases h with rfl | h | rfl
      · exact List.prefix_refl _
      · -- an argument lies two steps below its recipe
        obtain ⟨k, -, hk⟩ := prefix_of_mem_entryActions _ args h
        exact ((p.prefix_key _).trans (Position.prefix_key _ k)).trans hk
      · exact List.prefix_refl _

theorem prefix_of_mem_itemActions {a : Action} (p : Position) (i : Nat) :
    (items : List Node) → a ∈ itemActions p i items → ∃ j, i ≤ j ∧ p.index j <+: a.position
  | [], h => by simp [itemActions] at h
  | n :: rest, h => by
      rcases List.mem_append.1 h with h | h
      · exact ⟨i, Nat.le_refl i, prefix_of_mem_actions (p.index i) n h⟩
      · obtain ⟨j, hle, hj⟩ := prefix_of_mem_itemActions p (i + 1) rest h
        exact ⟨j, by omega, hj⟩

theorem prefix_of_mem_entryActions {a : Action} (p : Position) :
    (entries : List (String × Node)) → a ∈ entryActions p entries →
      ∃ k, k ∈ Entries.keys entries ∧ p.key k <+: a.position
  | [], h => by simp [entryActions] at h
  | (k, n) :: rest, h => by
      rcases List.mem_append.1 h with h | h
      · exact ⟨k, List.mem_cons_self, prefix_of_mem_actions (p.key k) n h⟩
      · obtain ⟨l, hmem, hl⟩ := prefix_of_mem_entryActions p rest h
        exact ⟨l, List.mem_cons_of_mem _ hmem, hl⟩

end

/-- The actions of entries are under the position of the entries, and so is all they deal with. -/
theorem prefix_position_of_mem_entryActions {a : Action} {p : Position}
    {entries : List (String × Node)} (h : a ∈ entryActions p entries) : p <+: a.position := by
  obtain ⟨k, -, hk⟩ := prefix_of_mem_entryActions p entries h
  exact (p.prefix_key k).trans hk

theorem prefix_of_concerns_entryActions {a : Action} {p q : Position}
    {entries : List (String × Node)} (h : a ∈ entryActions p entries) (hq : a.Concerns q) :
    p <+: q :=
  (prefix_position_of_mem_entryActions h).trans hq.isPrefix

mutual

/-- The value at a position needs the table at the position and below it only. -/
theorem image_congr {built built' : Position → Value} {p : Position} : (n : Node) →
    (∀ q, p <+: q → built q = built' q) → n.image built p = n.image built' p
  | .null, _ => rfl
  | .bool _, _ => rfl
  | .int _, _ => rfl
  | .float _, _ => rfl
  | .string _, _ => rfl
  | .seq items, h => congrArg Value.list (itemImages_congr 0 items fun q j _ hq =>
      h q ((p.prefix_index j).trans hq))
  | .map entries, h => congrArg Value.map (entryImages_congr entries fun q k _ hq =>
      h q ((p.prefix_key k).trans hq))
  | .recipe _ _, h => h p (List.prefix_refl p)

theorem itemImages_congr {built built' : Position → Value} {p : Position} (i : Nat) :
    (items : List Node) → (∀ q j, i ≤ j → p.index j <+: q → built q = built' q) →
      itemImages built p i items = itemImages built' p i items
  | [], _ => rfl
  | n :: rest, h => by
      have hhead := image_congr n fun q hq => h q i (Nat.le_refl i) hq
      have hrest := itemImages_congr (i + 1) rest fun q j hle hq => h q j (by omega) hq
      unfold itemImages
      rw [hhead, hrest]

theorem entryImages_congr {built built' : Position → Value} {p : Position} :
    (entries : List (String × Node)) →
      (∀ q k, k ∈ Entries.keys entries → p.key k <+: q → built q = built' q) →
      entryImages built p entries = entryImages built' p entries
  | [], _ => rfl
  | (k, n) :: rest, h => by
      have hhead := image_congr n fun q hq => h q k List.mem_cons_self hq
      have hrest := entryImages_congr rest fun q l hl hq => h q l (List.mem_cons_of_mem _ hl) hq
      unfold entryImages
      rw [hhead, hrest]

end

end Node

/-! ## Performing actions -/

namespace Builder

/-- The arguments of the recipe at a position, where a table gives the values of the recipes. -/
def arguments {m : Type → Type} (b : Builder m) (built : Position → Value) (p : Position)
    (r : Recipe) : Arguments :=
  ⟨Dict.ofList (Node.entryImages built (p.key Recipe.argsKey) r.args), b.initialised⟩

variable {m : Type → Type}

/-- An action that succeeds, with the events that it leaves: a callable is found, a factory builds
the value in the table, a validator judges in whatever way. -/
inductive Performs (b : Builder m) (built : Position → Value) : Action → List Event → Prop where
  | factory {p : Position} {r : Recipe} {run : Arguments → ExceptT CallError m Value}
      (found : b.registry.resolveFactory r.callable = .ok run) :
      Performs b built (.find .factory p r) []
  | validator {p : Position} {r : Recipe}
      {run : Source → Arguments → ExceptT CallError m Verdict}
      (found : b.registry.resolveValidator r.callable = .ok run) :
      Performs b built (.find .validator p r) []
  | call {p : Position} {r : Recipe} :
      Performs b built (.call p r) [.built r.callable (b.arguments built p r) (.ok (built p))]
  | judge {p : Position} {r : Recipe} {source : Source} {outcome : Except CallError Verdict} :
      Performs b built (.judge p r) [.judged r.callable source (b.arguments built p r) outcome]

/-- An action that fails, with the events that it leaves and the error. -/
inductive Fails (b : Builder m) (built : Position → Value) :
    Action → List Event → CatalogError → Prop where
  | factory {p : Position} {r : Recipe} {e : ReferenceError}
      (missing : b.registry.resolveFactory r.callable = .error e) :
      Fails b built (.find .factory p r) [] (.reference p e)
  | validator {p : Position} {r : Recipe} {e : ReferenceError}
      (missing : b.registry.resolveValidator r.callable = .error e) :
      Fails b built (.find .validator p r) [] (.reference p e)
  | call {p : Position} {r : Recipe} {e : CallError} :
      Fails b built (.call p r) [.built r.callable (b.arguments built p r) (.error e)]
        (.invocation p r.callable e)

/-- Actions that all succeed, one after the other. -/
inductive PerformsAll (b : Builder m) (built : Position → Value) :
    List Action → List Event → Prop where
  | nil : PerformsAll b built [] []
  | cons {a : Action} {rest : List Action} {first later : List Event}
      (head : b.Performs built a first) (tail : PerformsAll b built rest later) :
      PerformsAll b built (a :: rest) (first ++ later)

/-- Actions up to the first one that fails; the ones after it leave nothing. -/
inductive Stops (b : Builder m) (built : Position → Value) :
    List Action → List Event → CatalogError → Prop where
  | intro {before after : List Action} {a : Action} {first last : List Event} {e : CatalogError}
      (performed : b.PerformsAll built before first) (failed : b.Fails built a last e) :
      Stops b built (before ++ a :: after) (first ++ last) e

/-- A run that performs actions with a result, or stops on the way with the error of an action. -/
def Follows {σ α : Type} (b : Builder m) (built : Position → Value) (actions : List Action)
    (run : Run σ CatalogError α) (result : α → Prop) : Prop :=
  match run.outcome with
  | .ok a => result a ∧ b.PerformsAll built actions run.events
  | .error e => b.Stops built actions run.events e

variable {b : Builder m} {built built' : Position → Value}

theorem PerformsAll.append {first second : List Action} {before after : List Event}
    (hfirst : b.PerformsAll built first before) (hsecond : b.PerformsAll built second after) :
    b.PerformsAll built (first ++ second) (before ++ after) := by
  induction hfirst with
  | nil => exact hsecond
  | cons head tail ih =>
      rw [List.append_assoc]
      exact .cons head ih

theorem PerformsAll.singleton {a : Action} {events : List Event} (h : b.Performs built a events) :
    b.PerformsAll built [a] events := by
  have hall := PerformsAll.cons h .nil
  rwa [List.append_nil] at hall

theorem performs_call {p : Position} {r : Recipe} {args : Arguments} {v : Value}
    (hargs : args = b.arguments built p r) (hvalue : built p = v) :
    b.Performs built (.call p r) [.built r.callable args (.ok v)] := by
  subst hargs hvalue
  exact .call

/-- A failure among actions is one among more actions that would follow. -/
theorem Stops.append_right {actions : List Action} {events : List Event} {e : CatalogError}
    (h : b.Stops built actions events e) (more : List Action) :
    b.Stops built (actions ++ more) events e := by
  cases h with
  | intro performed failed =>
      rw [List.append_assoc, List.cons_append]
      exact .intro performed failed

/-- A failure after actions that succeed is the first one. -/
theorem Stops.append_left {front actions : List Action} {before events : List Event}
    {e : CatalogError} (hfront : b.PerformsAll built front before)
    (h : b.Stops built actions events e) :
    b.Stops built (front ++ actions) (before ++ events) e := by
  cases h with
  | intro performed failed =>
      rw [← List.append_assoc, ← List.append_assoc]
      exact .intro (hfront.append performed) failed

theorem Fails.stops {a : Action} {events : List Event} {e : CatalogError}
    (h : b.Fails built a events e) : b.Stops built [a] events e :=
  .intro .nil h

/-! ## Tables that agree -/

/-- Two tables give the same values to all that an action deals with. -/
def Agree (built built' : Position → Value) (a : Action) : Prop :=
  ∀ q, a.Concerns q → built q = built' q

theorem arguments_congr {p : Position} {r : Recipe}
    (h : ∀ q, p.key Recipe.argsKey <+: q → built q = built' q) :
    b.arguments built p r = b.arguments built' p r := by
  unfold arguments
  rw [Node.entryImages_congr r.args fun q k _ hq => h q ((Position.prefix_key _ k).trans hq)]

theorem Performs.congr {a : Action} {events : List Event} (h : Agree built built' a)
    (performed : b.Performs built a events) : b.Performs built' a events := by
  cases performed with
  | factory found => exact .factory found
  | validator found => exact .validator found
  | @call p r =>
      have hargs : b.arguments built p r = b.arguments built' p r :=
        arguments_congr fun q hq => h q (.inr hq)
      have hvalue : built p = built' p := h p (.inl rfl)
      rw [hargs, hvalue]
      exact .call
  | @judge p r source outcome =>
      have hargs : b.arguments built p r = b.arguments built' p r :=
        arguments_congr fun q hq => h q (.inr hq)
      rw [hargs]
      exact .judge

theorem PerformsAll.congr {actions : List Action} {events : List Event}
    (h : ∀ a ∈ actions, Agree built built' a) (performed : b.PerformsAll built actions events) :
    b.PerformsAll built' actions events := by
  induction performed with
  | nil => exact .nil
  | cons head tail ih =>
      have hhead := head.congr (h _ List.mem_cons_self)
      exact .cons hhead (ih fun a hmem => h a (List.mem_cons_of_mem _ hmem))

/-! ## Runs that follow actions -/

section Running

open Recorded

variable {σ α β : Type}

theorem Follows.of_ok {actions : List Action} {run : Run σ CatalogError α} {R : α → Prop} {a : α}
    (h : b.Follows built actions run R) (hok : run.outcome = .ok a) :
    R a ∧ b.PerformsAll built actions run.events := by
  unfold Follows at h
  rwa [hok] at h

theorem Follows.of_error {actions : List Action} {run : Run σ CatalogError α} {R : α → Prop}
    {e : CatalogError} (h : b.Follows built actions run R) (herror : run.outcome = .error e) :
    b.Stops built actions run.events e := by
  unfold Follows at h
  rwa [herror] at h

/-- Two computations follow the actions of the first and then those of the second.  The second may
extend the table where the actions of the first do not look; `Q` is what is known of the table. -/
theorem exists_follows_bind {x : ExceptT CatalogError (Recorded (StateM σ)) α}
    {f : α → ExceptT CatalogError (Recorded (StateM σ)) β} {actions later : List Action} {s : σ}
    {R : α → Prop} {S : (Position → Value) → β → Prop} {Q : (Position → Value) → Prop}
    (hx : b.Follows built actions (observe x s) R) (hQ : Q built)
    (hf : ∀ a t, R a → ∃ built', Q built' ∧ (∀ action ∈ actions, Agree built built' action) ∧
      b.Follows built' later (observe (f a) t) (S built')) :
    ∃ built', Q built' ∧ b.Follows built' (actions ++ later) (observe (x >>= f) s) (S built') := by
  rcases hrun : observe x s with ⟨outcome, events, t⟩
  rw [hrun] at hx
  cases outcome with
  | error e =>
      -- the first computation stops, and the table stays as it is
      refine ⟨built, hQ, ?_⟩
      rw [observe_bind_error f hrun]
      exact Stops.append_right hx later
  | ok a =>
      obtain ⟨hresult, hperformed⟩ := hx
      obtain ⟨built', hQ', hagree, hlater⟩ := hf a t hresult
      refine ⟨built', hQ', ?_⟩
      -- the table has grown, but not where the actions performed so far look
      have hfirst := hperformed.congr hagree
      rw [observe_bind_ok f hrun]
      unfold Follows at hlater ⊢
      cases hout : (observe (f a) t).outcome with
      | error e =>
          rw [hout] at hlater
          exact Stops.append_left hfirst hlater
      | ok c =>
          rw [hout] at hlater
          exact ⟨hlater.1, hfirst.append hlater.2⟩

/-- What is done with a result leaves no event. -/
theorem Follows.map {x : ExceptT CatalogError (Recorded (StateM σ)) α} {actions : List Action}
    {s : σ} {R : α → Prop} {S : β → Prop} (g : α → β)
    (h : b.Follows built actions (observe x s) R) (hg : ∀ a, R a → S (g a)) :
    b.Follows built actions (observe (x >>= fun a => pure (g a)) s) S := by
  rcases hrun : observe x s with ⟨outcome, events, t⟩
  rw [hrun] at h
  cases outcome with
  | error e =>
      rw [observe_bind_error _ hrun]
      exact h
  | ok a =>
      rw [observe_bind_ok _ hrun]
      obtain ⟨hresult, hperformed⟩ := h
      refine ⟨hg a hresult, ?_⟩
      simpa using hperformed

/-- Actions that leave no event may go before a run. -/
theorem Follows.after {front actions : List Action} {run : Run σ CatalogError α} {R : α → Prop}
    (hfront : b.PerformsAll built front []) (h : b.Follows built actions run R) :
    b.Follows built (front ++ actions) run R := by
  unfold Follows at h ⊢
  cases hout : run.outcome with
  | error e =>
      rw [hout] at h
      exact Stops.append_left hfront h
  | ok a =>
      rw [hout] at h
      exact ⟨h.1, hfront.append h.2⟩

/-- Nothing is done for a value that is there. -/
theorem Follows.pure {a : α} {s : σ} {R : α → Prop} (h : R a) :
    b.Follows built [] (observe (Pure.pure a : ExceptT CatalogError (Recorded (StateM σ)) α) s) R :=
  ⟨h, .nil⟩

/-- Running the factory of a recipe is the action of calling it; its value enters the table. -/
theorem exists_follows_call (b : Builder (StateM σ)) (built : Position → Value) (p : Position)
    (r : Recipe) (run : Arguments → ExceptT CallError (StateM σ) Value) (t : σ) :
    ∃ built', (∀ q, q ≠ p → built' q = built q) ∧
      b.Follows built' [.call p r]
        (observe (ExceptT.adapt (.invocation p r.callable)
          (Recorded.factory r.callable run (b.arguments built p r))) t)
        (· = built' p) := by
  unfold Recorded.factory
  rw [observe_adapt, observe_attempt]
  rcases hout : (run (b.arguments built p r)).run.run t with ⟨outcome, u⟩
  cases outcome with
  -- a call that fails gives nothing to the table
  | error e => exact ⟨built, fun q _ => rfl, Fails.call.stops⟩
  | ok v =>
      -- the value enters at the position of the recipe, outside of its own arguments
      refine ⟨fun q => if q = p then v else built q, fun q hq => if_neg hq, ?_⟩
      have hargs : b.arguments built p r =
          b.arguments (fun q => if q = p then v else built q) p r := by
        apply arguments_congr
        intro q hq
        rw [if_neg]
        intro heq
        exact Position.not_step_prefix p _ (heq ▸ hq)
      exact ⟨(if_pos rfl).symm, .singleton (performs_call hargs (if_pos rfl))⟩

open Node

/-- Once its arguments are evaluated a recipe is called, and its value enters the table. -/
theorem exists_follows_build (b : Builder (StateM σ)) {built₁ : Position → Value}
    (built : Position → Value) (p : Position) (r : Recipe)
    (run : Arguments → ExceptT CallError (StateM σ) Value) {s : σ}
    (houtside : ∀ q, ¬p <+: q → built₁ q = built q)
    (hargs : b.Follows built₁ (entryActions (p.key Recipe.argsKey) r.args)
      (observe (b.recorded.resolveEntries (p.key Recipe.argsKey) r.args) s)
      (· = entryImages built₁ (p.key Recipe.argsKey) r.args)) :
    ∃ built', (∀ q, ¬p <+: q → built' q = built q) ∧
      b.Follows built' (entryActions (p.key Recipe.argsKey) r.args ++ [.call p r])
        (observe (b.recorded.resolveEntries (p.key Recipe.argsKey) r.args >>= fun explicit =>
          ExceptT.adapt (.invocation p r.callable)
            (Recorded.factory r.callable run ⟨Dict.ofList explicit, b.initialised⟩)) s)
        (· = built' p) := by
  refine exists_follows_bind hargs houtside ?_
  intro explicit t hexplicit
  subst hexplicit
  obtain ⟨built₂, hat, hcall⟩ := exists_follows_call b built₁ p r run t
  refine ⟨built₂, ?_, ?_, hcall⟩
  · intro q hq
    have hne : q ≠ p := fun heq => hq (heq ▸ List.prefix_refl q)
    rw [hat q hne, houtside q hq]
  · intro a hmem q hq
    -- the arguments lie under the recipe, so that its own value is not among theirs
    have hbelow := prefix_of_concerns_entryActions hmem hq
    have hne : q ≠ p := fun heq => Position.not_step_prefix p _ (heq ▸ hbelow)
    exact (hat q hne).symm

mutual

/-- Building a configuration follows its actions and gives its image. -/
theorem follows_resolve (b : Builder (StateM σ)) (p : Position) :
    (n : Node) → n.Ordered → (built : Position → Value) → (s : σ) →
      ∃ built', (∀ q, ¬p <+: q → built' q = built q) ∧
        b.Follows built' (n.actions p) (observe (b.recorded.resolve p n) s) (· = n.image built' p)
  | .null, _, built, _ => ⟨built, fun _ _ => rfl, .pure rfl⟩
  | .bool _, _, built, _ => ⟨built, fun _ _ => rfl, .pure rfl⟩
  | .int _, _, built, _ => ⟨built, fun _ _ => rfl, .pure rfl⟩
  | .float _, _, built, _ => ⟨built, fun _ _ => rfl, .pure rfl⟩
  | .string _, _, built, _ => ⟨built, fun _ _ => rfl, .pure rfl⟩
  | .seq items, ordered, built, s => by
      obtain ⟨built', hframe, hitems⟩ := follows_resolveItems b p 0 items ordered built s
      refine ⟨built', ?_, ?_⟩
      · intro q hq
        exact hframe q fun j _ hj => hq ((p.prefix_index j).trans hj)
      · exact hitems.map Value.list fun vs hvs => congrArg Value.list hvs
  | .map entries, ordered, built, s => by
      obtain ⟨built', hframe, hentries⟩ :=
        follows_resolveEntries b p entries ordered.1 ordered.2 built s
      refine ⟨built', ?_, ?_⟩
      · intro q hq
        exact hframe q fun k _ hk => hq ((p.prefix_key k).trans hk)
      · exact hentries.map Value.map fun vs hvs => congrArg Value.map hvs
  | .recipe callable args, ordered, built, s => by
      obtain ⟨built₁, hframe, hargs⟩ :=
        follows_resolveEntries b (p.key Recipe.argsKey) args ordered.1 ordered.2 built s
      have houtside : ∀ q, ¬p <+: q → built₁ q = built q := fun q hq =>
        hframe q fun k _ hk =>
          hq (((p.prefix_key _).trans (Position.prefix_key _ k)).trans hk)
      simp only [resolve]
      rw [registry_recorded, Registry.resolveFactory_recorded]
      cases hfound : b.registry.resolveFactory callable with
      | error e =>
          -- the search comes first, so that a missing callable leaves no event at all
          have hfails : b.Fails built₁ (.find .factory p ⟨callable, args⟩) [] (.reference p e) :=
            .factory hfound
          exact ⟨built₁, houtside, hfails.stops.append_right _⟩
      | ok run =>
          -- the callable is found before its arguments are evaluated, and runs after them
          obtain ⟨built₂, houtside₂, hbody⟩ :=
            exists_follows_build b built p ⟨callable, args⟩ run houtside hargs
          have hfind : b.Performs built₂ (.find .factory p ⟨callable, args⟩) [] := .factory hfound
          exact ⟨built₂, houtside₂, hbody.after (.singleton hfind)⟩

theorem follows_resolveItems (b : Builder (StateM σ)) (p : Position) (i : Nat) :
    (items : List Node) → ItemsOrdered items → (built : Position → Value) → (s : σ) →
      ∃ built', (∀ q, (∀ j, i ≤ j → ¬p.index j <+: q) → built' q = built q) ∧
        b.Follows built' (itemActions p i items) (observe (b.recorded.resolveItems p i items) s)
          (· = itemImages built' p i items)
  | [], _, built, _ => ⟨built, fun _ _ => rfl, .pure rfl⟩
  | n :: rest, ordered, built, s => by
      obtain ⟨built₁, hframe₁, hhead⟩ := follows_resolve b (p.index i) n ordered.1 built s
      refine exists_follows_bind hhead (fun q hq => hframe₁ q (hq i (Nat.le_refl i))) ?_
      intro v t hv
      obtain ⟨built₂, hframe₂, hrest⟩ :=
        follows_resolveItems b p (i + 1) rest ordered.2 built₁ t
      -- the later elements do not touch what was built for this one
      have hsame : ∀ q, p.index i <+: q → built₁ q = built₂ q := by
        intro q hq
        refine (hframe₂ q fun j hle hj => ?_).symm
        have hij := Position.index_unique hq hj
        omega
      refine ⟨built₂, ?_, ?_, ?_⟩
      · intro q hq
        rw [hframe₂ q fun j hle => hq j (by omega), hframe₁ q (hq i (Nat.le_refl i))]
      · intro a hmem q hq
        exact hsame q ((prefix_of_mem_actions _ n hmem).trans hq.isPrefix)
      · refine hrest.map (v :: ·) fun vs hvs => ?_
        unfold itemImages
        rw [hvs, hv, image_congr n hsame]

theorem follows_resolveEntries (b : Builder (StateM σ)) (p : Position) :
    (entries : List (String × Node)) → Entries.Ordered entries → EntriesOrdered entries →
      (built : Position → Value) → (s : σ) →
      ∃ built', (∀ q, (∀ k, k ∈ Entries.keys entries → ¬p.key k <+: q) → built' q = built q) ∧
        b.Follows built' (entryActions p entries) (observe (b.recorded.resolveEntries p entries) s)
          (· = entryImages built' p entries)
  | [], _, _, built, _ => ⟨built, fun _ _ => rfl, .pure rfl⟩
  | (k, n) :: rest, keys, ordered, built, s => by
      obtain ⟨built₁, hframe₁, hhead⟩ := follows_resolve b (p.key k) n ordered.1 built s
      have hnodup : k ∉ Entries.keys rest := (List.nodup_cons.1 (Entries.keys_nodup keys)).1
      refine exists_follows_bind hhead (fun q hq => hframe₁ q (hq k List.mem_cons_self)) ?_
      intro v t hv
      obtain ⟨built₂, hframe₂, hrest⟩ :=
        follows_resolveEntries b p rest (List.pairwise_cons.1 keys).2 ordered.2 built₁ t
      -- no later entry has this key, so that what was built under it stays
      have hsame : ∀ q, p.key k <+: q → built₁ q = built₂ q := by
        intro q hq
        refine (hframe₂ q fun l hmem hl => ?_).symm
        exact hnodup (Position.key_unique hq hl ▸ hmem)
      refine ⟨built₂, ?_, ?_, ?_⟩
      · intro q hq
        rw [hframe₂ q fun l hmem => hq l (List.mem_cons_of_mem _ hmem),
          hframe₁ q (hq k List.mem_cons_self)]
      · intro a hmem q hq
        exact hsame q ((prefix_of_mem_actions _ n hmem).trans hq.isPrefix)
      · refine hrest.map ((k, v) :: ·) fun vs hvs => ?_
        unfold entryImages
        rw [hvs, hv, image_congr n hsame]

end

end Running

end Builder

end DataCatalog
