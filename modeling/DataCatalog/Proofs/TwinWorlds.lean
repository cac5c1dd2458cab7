import DataCatalog.Proofs.Coupling

/-!
# Twin worlds

Two worlds in which a catalog is used may have given out different identities before.  From then on
they give out the same number of identities, and those that were given out by the same steps stand
for each other (`Pairing.Pairs`).  Worlds are twins when they have the same files and hold, under
identities that stand for each other, the same things up to such identities.

Main statements: `Parallel` is what it means to do the same in twin worlds.  In these sources are
built and judged alike (`Twins.buildsAlike`, `Twins.judgesAlike`), and `BuiltIn.parallel_read` and
`BuiltIn.parallel_write` say that they are read and written alike.
-/

set_option autoImplicit false

namespace DataCatalog

/-! ## Twin worlds -/

/-- How the identities in two worlds belong together: some are known to both, and the others are
counted from the first one that was not given out. -/
structure Pairing where
  known : Nat → Prop
  first : Nat
  second : Nat
  known_lt : ∀ i, known i → i < first ∧ i < second

namespace Pairing

variable (π : Pairing)

/-- Identities that stand for each other. -/
def Pairs (i j : Nat) : Prop :=
  (π.known i ∧ j = i) ∨ ∃ n, i = π.first + n ∧ j = π.second + n

variable {π}

theorem pairs_new (n : Nat) : π.Pairs (π.first + n) (π.second + n) :=
  .inr ⟨n, rfl, rfl⟩

/-- Different identities never stand for the same. -/
theorem Pairs.eq_iff {i j i' j' : Nat} (h : π.Pairs i j) (h' : π.Pairs i' j') :
    i = i' ↔ j = j' := by
  rcases h with ⟨hi, rfl⟩ | ⟨n, rfl, rfl⟩
  · rcases h' with ⟨-, rfl⟩ | ⟨n', rfl, rfl⟩
    · exact Iff.rfl
    · have hlt := π.known_lt j hi
      omega
  · rcases h' with ⟨hi', rfl⟩ | ⟨n', rfl, rfl⟩
    · have hlt := π.known_lt j' hi'
      omega
    · omega

end Pairing

/-- Worlds with the same files that have given out as many new identities, and hold matching
payloads under identities that stand for each other. -/
structure Twins (π : Pairing) (w w' : World) : Prop where
  files : w'.files = w.files
  next : ∃ n, w.memory.next = π.first + n ∧ w'.memory.next = π.second + n
  payload : ∀ i j, π.Pairs i j → (w.memory.payload i).Matches π.Pairs (w'.memory.payload j)

namespace Twins

variable {π : Pairing} {w w' : World}

theorem pairs_next (h : Twins π w w') : π.Pairs w.memory.next w'.memory.next := by
  obtain ⟨n, hfirst, hsecond⟩ := h.next
  rw [hfirst, hsecond]
  exact Pairing.pairs_new n

theorem advance (h : Twins π w w') :
    Twins π { w with memory := w.memory.advance } { w' with memory := w'.memory.advance } where
  files := h.files
  next := by
    obtain ⟨n, hfirst, hsecond⟩ := h.next
    exact ⟨n + 1, congrArg (· + 1) hfirst, congrArg (· + 1) hsecond⟩
  payload := h.payload

/-- Matching payloads are given to identities that stand for each other. -/
theorem setPayload (h : Twins π w w') {i j : Nat} (hpair : π.Pairs i j) {data data' : Value}
    (hdata : data.Matches π.Pairs data') :
    Twins π { w with memory := w.memory.setPayload i data }
      { w' with memory := w'.memory.setPayload j data' } where
  files := h.files
  next := h.next
  payload k l hkl := by
    rw [MemoryStore.payload_setPayload, MemoryStore.payload_setPayload]
    by_cases hk : k = i
    · rw [if_pos hk, if_pos ((hkl.eq_iff hpair).1 hk)]
      exact hdata
    · rw [if_neg hk, if_neg fun hl => hk ((hkl.eq_iff hpair).2 hl)]
      exact h.payload k l hkl

theorem withFiles (h : Twins π w w') (files : FileStore) :
    Twins π { w with files } { w' with files } :=
  ⟨rfl, h.next, h.payload⟩

/-- In twin worlds sources are built alike. -/
theorem buildsAlike : BuildsAlike π.Pairs (Twins π) :=
  ⟨pairs_next, advance, setPayload⟩

/-- In twin worlds sources are judged alike. -/
theorem judgesAlike : JudgesAlike π.Pairs (Twins π) where
  payload h _ _ hpair := h.payload _ _ hpair
  isPresent h path := by rw [h.files]
  hasContent h path := by rw [h.files]

end Twins

/-! ## Doing the same in twin worlds -/

/-- Two computations that do the same in twin worlds: they fail with the same error or succeed with
related results, and leave twins. -/
def Parallel {ε α β : Type} (π : Pairing) (Q : α → β → Prop) (x : ExceptT ε (StateM World) α)
    (y : ExceptT ε (StateM World) β) : Prop :=
  Couples (Twins π) Q x y

/-- The files of twin worlds are seen alike. -/
theorem parallel_files {ε α : Type} {π : Pairing} (look : FileStore → α) {x : StateM World α}
    (hx : ∀ w : World, x.run w = (look w.files, w)) :
    Parallel π Eq (liftM x : ExceptT ε (StateM World) α) (liftM x) :=
  couples_look (fun w => by rw [hx]) (fun w => by rw [hx]) fun w w' twins => by
    rw [hx, hx, twins.files]

/-! ## The built-in sources -/

namespace BuiltIn

open Value

variable {π : Pairing} {i j : Nat} (kind : SourceKind) (hpair : π.Pairs i j)
include hpair

theorem parallel_read :
    Parallel π (Matches π.Pairs) (read ⟨i, kind⟩ : ExceptT CallError (StateM World) Value)
      (read ⟨j, kind⟩) := by
  unfold read
  cases kind with
  | file path format =>
      refine couples_bind_eq (parallel_files (·.readText path) fun _ => rfl) fun content => ?_
      cases content with
      | none => exact couples_throw _
      | some text =>
          -- what is decoded has no sources, and so it matches itself
          intro w w' twins
          refine ⟨?_, twins⟩
          show ExceptMatch _ (format.decode text) (format.decode text)
          cases hdecode : format.decode text with
          | error e => exact .error e
          | ok v =>
              refine .ok (matches_self v fun source hmem => ?_)
              rw [FileFormat.sources_of_decode hdecode] at hmem
              cases hmem
  | memory => exact Validator.couples_payload Twins.judgesAlike hpair
  | foreign typeName writable => exact couples_throw _

/-- Matching data is written alike. -/
theorem parallel_write {data data' : Value} (hdata : data.Matches π.Pairs data') :
    Parallel π Eq (write ⟨i, kind⟩ data : ExceptT CallError (StateM World) Unit)
      (write ⟨j, kind⟩ data') := by
  unfold write
  cases kind with
  | file path format =>
      intro w w' twins
      have alike := Twins.judgesAlike.describesAlike twins
      dsimp only
      rw [FileSource.run_write, FileSource.run_write, hdata.encode_eq alike, twins.files]
      cases format.encode w.memory.describe data with
      | error e => exact ⟨.error e, twins⟩
      | ok text =>
          dsimp only
          cases w.files.replace path text with
          | error blamed => exact ⟨.error _, twins⟩
          | ok files => exact ⟨.ok rfl, twins.withFiles files⟩
  | memory => exact fun w w' twins => ⟨.ok rfl, twins.setPayload hpair hdata⟩
  | foreign typeName writable => exact couples_throw _

end BuiltIn

end DataCatalog
