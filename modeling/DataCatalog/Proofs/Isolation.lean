import DataCatalog.Proofs.TwinWorlds

/-!
# Calls of a catalog share nothing but files

A catalog keeps recipes, and every call builds its sources afresh.  What earlier calls built and
wrote in memory has no bearing on a later call, which does what it would do in a world where the
catalog has just been loaded (`World.Shares`, `Call.DoesTheSame`).

Main statement: `Call.isolated` says this of every call after any finite sequence of calls, together
with what a call may change: no payload that was there when the catalog was loaded, and no file but
the one of the dataset that is written to.
-/

set_option autoImplicit false

namespace DataCatalog

/-! ## Calls -/

/-- What can be done with a catalog. -/
inductive Call where
  | source (name : String)
  | validate (name : String)
  | read (name : String)
  | readWith (name : String) (skipValidation : Bool)
  | readAll
  | write (name : String) (data : Value)

/-- What comes of a call. -/
inductive Answer where
  | source (source : Source)
  | report (report : ValidationReport)
  | value (value : Value)
  | values (values : Entries Value)
  | written

namespace Call

/-- What a call does. -/
def perform {m : Type → Type} [Monad m] [DataSources m] (c : Catalog m) :
    Call → ExceptT CatalogError m Answer
  | .source name => do return .source (← c.source name)
  | .validate name => do return .report (← c.validate name)
  | .read name => do return .value (← c.read name)
  | .readWith name skipValidation => do return .value (← c.readWith name skipValidation)
  | .readAll => do return .values (← c.readAll)
  | .write name data => do
      c.write name data
      return .written

/-- The sources in the data of a call. -/
def sources : Call → List Source
  | .write _ data => data.sources
  | _ => []

/-- The world after some calls. -/
def after (c : Catalog (StateM World)) (w : World) (calls : List Call) : World :=
  calls.foldl (fun w call => ((call.perform c).run.run w).2) w

end Call

/-- Answers that are the same but for the identities of sources, which are related. -/
inductive Answer.Matches (R : Nat → Nat → Prop) : Answer → Answer → Prop where
  | source {s s' : Source} (h : Value.Matches R (.source s) (.source s')) :
      Matches R (.source s) (.source s')
  | report (report : ValidationReport) : Matches R (.report report) (.report report)
  | value {v v' : Value} (h : Value.Matches R v v') : Matches R (.value v) (.value v')
  | values {entries entries' : Entries Value} (h : Value.EntriesMatch R entries entries') :
      Matches R (.values entries) (.values entries')
  | written : Matches R .written .written

namespace Catalog

open Value

variable {π : Pairing} (datasets : Dict DatasetEntry) {initialised : Dict Value}
variable (hinitialised : EntriesMatch π.Pairs initialised.entries initialised.entries)
include hinitialised

/-- The source of a dataset stands for that in a twin world. -/
theorem parallel_source (name : String) :
    Parallel π (fun s s' => Value.Matches π.Pairs (.source s) (.source s'))
      ((BuiltIn.catalog datasets initialised).source name)
      ((BuiltIn.catalog datasets initialised).source name) :=
  couples_source Twins.buildsAlike datasets hinitialised name

theorem parallel_validate (name : String) :
    Parallel π Eq ((BuiltIn.catalog datasets initialised).validate name)
      ((BuiltIn.catalog datasets initialised).validate name) :=
  couples_validate Twins.buildsAlike datasets hinitialised Twins.judgesAlike name

theorem parallel_readWith (name : String) (skipValidation : Bool) :
    Parallel π (Matches π.Pairs)
      ((BuiltIn.catalog datasets initialised).readWith name skipValidation)
      ((BuiltIn.catalog datasets initialised).readWith name skipValidation) := by
  rw [readWith_eq_withSource]
  refine couples_withSource Twins.buildsAlike datasets hinitialised name
    fun entry i j kind hpair => ?_
  have hfetch := couples_adapt (BuiltIn.parallel_read kind hpair)
    (CatalogError.sourceRead name)
  unfold fetch
  cases skipValidation with
  | true => exact hfetch
  | false =>
      refine couples_bind_eq
        (Builder.couples_validate Twins.buildsAlike hinitialised Twins.judgesAlike hpair kind name
          entry.validations) fun report => ?_
      unfold deliver
      cases report.result with
      | ok _ => exact hfetch
      | error e => exact couples_throw _

theorem parallel_readNames (names : List String) :
    Parallel π (EntriesMatch π.Pairs) ((BuiltIn.catalog datasets initialised).readNames names)
      ((BuiltIn.catalog datasets initialised).readNames names) := by
  induction names with
  | nil => exact couples_pure rfl
  | cons name rest ih =>
      exact couples_bind (parallel_readWith datasets hinitialised name false) fun _ data hdata =>
        couples_bind ih fun _ later hlater => couples_pure ⟨data, later, rfl, hdata, hlater⟩

theorem parallel_write (name : String) {data : Value} (hdata : data.Matches π.Pairs data) :
    Parallel π Eq ((BuiltIn.catalog datasets initialised).write name data)
      ((BuiltIn.catalog datasets initialised).write name data) := by
  rw [write_eq_withSource]
  refine couples_withSource Twins.buildsAlike datasets hinitialised name
    fun entry i j kind hpair => ?_
  have hstored := couples_adapt (BuiltIn.parallel_write kind hpair hdata)
    (CatalogError.sourceWrite name)
  unfold store
  cases hwritable : Source.writable ⟨i, kind⟩ with
  | true =>
      have hwritable' : Source.writable ⟨j, kind⟩ = true := hwritable
      rw [if_pos rfl, if_pos hwritable']
      exact hstored
  | false =>
      have hwritable' : ¬Source.writable ⟨j, kind⟩ = true := by
        show ¬Source.writable ⟨i, kind⟩ = true
        simp [hwritable]
      rw [if_neg Bool.false_ne_true, if_neg hwritable']
      exact couples_throw _

end Catalog

namespace Call

open Value

/-- A call does the same in twin worlds. -/
theorem parallel_perform {π : Pairing} (datasets : Dict DatasetEntry) {initialised : Dict Value}
    (hinitialised : EntriesMatch π.Pairs initialised.entries initialised.entries) (call : Call)
    (hcall : ∀ s ∈ call.sources, π.Pairs s.identity s.identity) :
    Parallel π (Answer.Matches π.Pairs) (call.perform (BuiltIn.catalog datasets initialised))
      (call.perform (BuiltIn.catalog datasets initialised)) := by
  cases call with
  | source name =>
      refine couples_bind (Catalog.parallel_source datasets hinitialised name) ?_
      exact fun _ _ h => couples_pure (.source h)
  | validate name =>
      refine couples_bind_eq (Catalog.parallel_validate datasets hinitialised name) ?_
      exact fun report => couples_pure (.report report)
  | read name =>
      exact couples_bind (Catalog.parallel_readWith datasets hinitialised name false)
        fun _ _ h => couples_pure (.value h)
  | readWith name skipValidation =>
      exact couples_bind (Catalog.parallel_readWith datasets hinitialised name skipValidation)
        fun _ _ h => couples_pure (.value h)
  | readAll =>
      exact couples_bind (Catalog.parallel_readNames datasets hinitialised _)
        fun _ _ h => couples_pure (.values h)
  | write name data =>
      exact couples_bind_eq
        (Catalog.parallel_write datasets hinitialised name (matches_self data hcall))
        fun _ => couples_pure .written

end Call

/-! ## A freshly loaded catalog -/

/-- A world in which a catalog with initialised values may be loaded: nothing is held under
identities that were not given out, and no other identities occur in what is held and in the
initialised values. -/
structure World.Loaded (w : World) (initialised : Dict Value) : Prop where
  unused : w.memory.Unused
  payloads : ∀ i, ∀ source ∈ (w.memory.payload i).sources, source.identity < w.memory.next
  initialised : ∀ source ∈ Value.entrySources initialised.entries,
    source.identity < w.memory.next

/-- Worlds with the same files that have some sources in common, with what these hold. -/
structure World.Shares (known : Nat → Prop) (w fresh : World) : Prop where
  files : fresh.files = w.files
  given : ∀ i, known i → i < w.memory.next ∧ i < fresh.memory.next
  payload : ∀ i, known i → fresh.memory.payload i = w.memory.payload i
  closed : ∀ i, known i → ∀ source ∈ (w.memory.payload i).sources, known source.identity
  unused : w.memory.Unused ∧ fresh.memory.Unused

namespace World.Shares

variable {known : Nat → Prop} {w fresh : World}

/-- The sources in common stand for themselves, and new ones for those built by the same steps. -/
def pairing (h : Shares known w fresh) : Pairing :=
  ⟨known, w.memory.next, fresh.memory.next, h.given⟩

theorem twins (h : Shares known w fresh) : Twins h.pairing w fresh where
  files := h.files
  next := ⟨0, rfl, rfl⟩
  payload i j hpair := by
    rcases hpair with ⟨hknown, rfl⟩ | ⟨n, rfl, rfl⟩
    · rw [h.payload j hknown]
      exact Value.matches_self _ fun source hmem => .inl ⟨h.closed j hknown source hmem, rfl⟩
    · have hfirst := h.unused.1 (w.memory.next + n) (Nat.le_add_right _ _)
      have hsecond := h.unused.2 (fresh.memory.next + n) (Nat.le_add_right _ _)
      show (w.memory.payload (w.memory.next + n)).Matches _
        (fresh.memory.payload (fresh.memory.next + n))
      rw [hfirst, hsecond]
      rfl

end World.Shares

namespace Call

/-- A call has the same outcome in two worlds that share some sources, up to the identity of new
sources, and leaves the same files and the same things in sources that stand for each other. -/
def DoesTheSame (c : Catalog (StateM World)) (call : Call) {known : Nat → Prop} {w fresh : World}
    (shares : w.Shares known fresh) : Prop :=
  ExceptMatch (Answer.Matches shares.pairing.Pairs) ((call.perform c).run.run w).1
      ((call.perform c).run.run fresh).1 ∧
    Twins shares.pairing ((call.perform c).run.run w).2 ((call.perform c).run.run fresh).2

/-- A call writes to a dataset whose source is a file: it succeeds, and this file, and no other, is
replaced by the text of the data. -/
def WritesFile (c : Catalog (StateM World)) (call : Call) (w : World) : Prop :=
  ∃ name data identity path format text, call = .write name data ∧
    ((call.perform c).run.run w).1 = .ok .written ∧
    ((c.source name).run.run w).1 = .ok ⟨identity, .file path format⟩ ∧
    format.encode ((call.perform c).run.run w).2.memory.describe data = .ok text ∧
    w.files.Replaced path text ((call.perform c).run.run w).2.files

section Steps

variable (datasets : Dict DatasetEntry) (initialised : Dict Value)

theorem growing_perform {call : Call} (h : ∀ name data, call ≠ .write name data) :
    Growing (call.perform (BuiltIn.catalog datasets initialised)) := by
  cases call with
  | source name =>
      exact growing_bind (Catalog.growing_source datasets initialised name) fun _ => growing_pure _
  | validate name =>
      exact growing_bind (Catalog.growing_validate datasets initialised name) fun _ =>
        growing_pure _
  | read name =>
      exact growing_bind (Catalog.growing_readWith datasets initialised name false) fun _ =>
        growing_pure _
  | readWith name skipValidation =>
      exact growing_bind (Catalog.growing_readWith datasets initialised name skipValidation)
        fun _ => growing_pure _
  | readAll =>
      exact growing_bind (Catalog.growing_readNames datasets initialised _) fun _ =>
        growing_pure _
  | write name data => exact absurd rfl (h name data)

theorem run_write (c : Catalog (StateM World)) (name : String) (data : Value) (w : World) :
    ((Call.write name data).perform c).run.run w =
      (((c.write name data).run.run w).1.map fun _ => .written,
        ((c.write name data).run.run w).2) := by
  have hperform : (Call.write name data).perform c =
      c.write name data >>= fun _ => pure .written := rfl
  rw [hperform]
  rcases hrun : (c.write name data).run.run w with ⟨outcome, t⟩
  cases outcome with
  | error e => exact run_bind_error _ hrun
  | ok _ => exact run_bind_ok _ hrun

/-- What one call changes: payloads are added, and a file is replaced if it is written to. -/
theorem perform_changes (call : Call) (w : World) :
    w.memory.Extends ((call.perform (BuiltIn.catalog datasets initialised)).run.run w).2.memory ∧
      (((call.perform (BuiltIn.catalog datasets initialised)).run.run w).2.files = w.files ∨
        call.WritesFile (BuiltIn.catalog datasets initialised) w) := by
  by_cases hwrite : ∃ name data, call = .write name data
  · obtain ⟨name, data, rfl⟩ := hwrite
    obtain ⟨hmemory, -, hfiles⟩ := Catalog.run_write_changes datasets initialised name data w
    unfold WritesFile
    rw [run_write]
    refine ⟨hmemory, hfiles.imp id ?_⟩
    rintro ⟨identity, path, format, text, houtcome, hsource, hencode, hreplaced⟩
    exact ⟨name, data, identity, path, format, text, rfl, by rw [houtcome]; rfl, hsource, hencode,
      hreplaced⟩
  · have hgrown := growing_perform datasets initialised
      (fun name data heq => hwrite ⟨name, data, heq⟩) w
    exact ⟨hgrown.memory, .inl hgrown.files⟩

/-- Calls keep what was held before them. -/
theorem extends_after (calls : List Call) (w : World) :
    w.memory.Extends (after (BuiltIn.catalog datasets initialised) w calls).memory := by
  induction calls generalizing w with
  | nil => exact .refl _
  | cons call rest ih => exact (perform_changes datasets initialised call w).1.trans (ih _)

end Steps

/-- In worlds that share the sources of its data, a call does the same. -/
theorem doesTheSame (datasets : Dict DatasetEntry) {initialised : Dict Value} (call : Call)
    {known : Nat → Prop} {w fresh : World} (shares : w.Shares known fresh)
    (hinitialised : ∀ source ∈ Value.entrySources initialised.entries, known source.identity)
    (hcall : ∀ source ∈ call.sources, known source.identity) :
    call.DoesTheSame (BuiltIn.catalog datasets initialised) shares := by
  have hself : ∀ i, known i → shares.pairing.Pairs i i := fun i hi => .inl ⟨hi, rfl⟩
  have hentries := Value.entriesMatch_self initialised.entries fun source hmem =>
    hself source.identity (hinitialised source hmem)
  exact parallel_perform datasets hentries call (fun source hmem => hself _ (hcall source hmem))
    w fresh shares.twins

/-- The world after some calls shares what was there before them with a fresh copy of the world. -/
theorem shares_after (datasets : Dict DatasetEntry) {initialised : Dict Value} {w : World}
    (loaded : w.Loaded initialised) (calls : List Call) :
    let t := after (BuiltIn.catalog datasets initialised) w calls
    t.Shares (· < w.memory.next) { w with files := t.files } := by
  intro t
  have hextends := extends_after datasets initialised calls w
  refine ⟨rfl, ?_, ?_, ?_, hextends.unused loaded.unused, loaded.unused⟩
  · intro i hi
    exact ⟨Nat.lt_of_lt_of_le hi hextends.next, hi⟩
  · intro i hi
    exact (hextends.payload i hi).symm
  · intro i hi source hmem
    rw [hextends.payload i hi] at hmem
    exact loaded.payloads i source hmem

/-- Calls share nothing but files.  After any calls, a call does what it does in a fresh copy of the
world in which the catalog was loaded, with the files as they are now; if its data holds sources
that were built since, the copy must hold these too, and nothing else matters.  What was held when
the catalog was loaded is never changed, and neither is a file, but for the one of a dataset that is
written to. -/
theorem isolated (datasets : Dict DatasetEntry) {initialised : Dict Value} {w : World}
    (loaded : w.Loaded initialised) (before : List Call) (call : Call) :
    let c := BuiltIn.catalog datasets initialised
    let t := after c w before
    (∃ copy : t.Shares (· < w.memory.next) { w with files := t.files },
      (∀ source ∈ call.sources, source.identity < w.memory.next) → call.DoesTheSame c copy) ∧
    (∀ known fresh, ∀ copy : t.Shares known fresh, (∀ i, i < w.memory.next → known i) →
      (∀ source ∈ call.sources, known source.identity) → call.DoesTheSame c copy) ∧
    (∀ i, i < w.memory.next →
      ((call.perform c).run.run t).2.memory.payload i = w.memory.payload i) ∧
    (((call.perform c).run.run t).2.files = t.files ∨ call.WritesFile c t) := by
  intro c t
  obtain ⟨hmemory, hfiles⟩ := perform_changes datasets initialised call t
  have hkept := (extends_after datasets initialised before w).trans hmemory
  refine ⟨⟨shares_after datasets loaded before, ?_⟩, ?_, hkept.payload, hfiles⟩
  · exact doesTheSame datasets call (shares_after datasets loaded before) loaded.initialised
  · intro known fresh copy hknown hcall
    apply doesTheSame datasets call copy _ hcall
    exact fun source hmem => hknown _ (loaded.initialised source hmem)

/-- A world in which one source was built, with a number in it. -/
def storeroom : World := ⟨FileStore.workingIn [], Dict.empty, ⟨[(0, .int 7)], 1⟩⟩

/-- The source of `storeroom`, as an initialised value. -/
def supplies : Dict Value := Dict.ofList [("data", .source ⟨0, .memory⟩)]

/-- A dataset in memory that holds another source. -/
def boxes : Dict DatasetEntry :=
  Dict.ofList [("box", ⟨⟨"talog.sources.InMemory", []⟩, []⟩)]

theorem loaded_storeroom : storeroom.Loaded supplies := by
  have hpayload (i : Nat) (hi : i ≠ 0) : storeroom.memory.payload i = .null := by
    have hbeq : (i == 0) = false := beq_eq_false_iff_ne.2 hi
    simp [storeroom, MemoryStore.payload, List.lookup_cons, hbeq]
  refine ⟨?_, ?_, ?_⟩
  · intro i hi
    exact hpayload i (Nat.ne_of_gt hi)
  · intro i source hmem
    by_cases hi : i = 0
    · subst hi
      cases hmem
    · rw [hpayload i hi] at hmem
      cases hmem
  · intro source hmem
    obtain rfl := List.mem_singleton.1 hmem
    exact Nat.zero_lt_one

/-- Data that is written to the box is not found when it is read again, and the source that was in
it holds what it held. -/
theorem isolated_storeroom :
    storeroom.Loaded supplies ∧
    (let c := BuiltIn.catalog boxes supplies
     let t := after c storeroom [.write "box" (.int 5)]
     (∃ copy : t.Shares (· < 1) { storeroom with files := t.files },
      (Call.read "box").DoesTheSame c copy) ∧
     ((((Call.read "box").perform c).run.run t).1 = .ok (.value (.source ⟨0, .memory⟩))) ∧
     (((Call.read "box").perform c).run.run t).2.memory.payload 0 = .int 7) := by
  obtain ⟨⟨copy, hcopy⟩, -, hkept, -⟩ :=
    isolated boxes loaded_storeroom [.write "box" (.int 5)] (.read "box")
  refine ⟨loaded_storeroom, ⟨copy, hcopy fun source hmem => ?_⟩, rfl, ?_⟩
  · cases hmem
  · exact hkept 0 Nat.zero_lt_one

end Call

end DataCatalog
