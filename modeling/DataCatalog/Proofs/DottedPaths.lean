import DataCatalog.Proofs.ReferenceForm
import DataCatalog.Value

/-!
# Dotted paths

A chain of keys of maps and indices of lists leads from a value down to one of its nodes.  It is
written as a dotted path: the keys as they are, the indices in decimal.  A dotted path is followed
part by part, so that a path of two halves is followed one half after the other, also where a half
is empty or begins or ends in a dot.

Main statement: `Value.lookup_composes_and_reaches` says this, that every node is found under the
path that writes its chain, and that nothing but nodes is found.
-/

set_option autoImplicit false

namespace DataCatalog

namespace Numeral

/-- Decimal digits are read to the number that they stand for. -/
theorem digitsFrom_of_isDigit {cs : List Char} (h : ∀ c ∈ cs, c.isDigit = true) (value : Nat) :
    digitsFrom 10 value cs = some (Nat.ofDigitChars 10 cs value) := by
  induction cs generalizing value with
  | nil => rfl
  | cons c rest ih =>
      obtain ⟨hc, hrest⟩ := List.forall_mem_cons.1 h
      obtain ⟨hlow, hhigh⟩ := Char.isDigit_iff_toNat.1 hc
      have hbetween : '0' ≤ c ∧ c ≤ '9' := ⟨hlow, hhigh⟩
      have hdigit : digitValue c = some (c.toNat - '0'.toNat) := by
        simp [digitValue, hbetween]
      have hsmall : c.toNat - '0'.toNat < 10 := by
        have hnine : '9'.toNat = '0'.toNat + 9 := rfl
        omega
      simp only [digitsFrom, hdigit, if_pos hsmall]
      rw [ih hrest, Nat.ofDigitChars_cons, Nat.mul_comm]

/-- An index that fits a machine word is read from its decimal digits. -/
theorem index?_toDigits {n : Nat} (h : n < UInt64.size) : index? (Nat.toDigits 10 n) = some n := by
  have hdigits : ∀ c ∈ Nat.toDigits 10 n, c.isDigit = true :=
    fun c hmem => Nat.isDigit_of_mem_toDigits (by decide) (by decide) hmem
  have hread : digits? 10 (Nat.toDigits 10 n) = some n := by
    cases hcs : Nat.toDigits 10 n with
    | nil => exact absurd hcs Nat.toDigits_ne_nil
    | cons c rest =>
        rw [digits?, digitsFrom_of_isDigit (hcs ▸ hdigits), ← hcs, Nat.ofDigitChars_ten_toDigits]
        exact List.cons_ne_nil c rest
  unfold index?
  split
  · -- A sign is no digit.
    rename_i rest hcs
    exact absurd (hdigits '+' (hcs ▸ List.mem_cons_self)) (by decide)
  · show (digits? 10 (Nat.toDigits 10 n)).filter _ = some n
    rw [hread]
    exact Option.filter_eq_some_iff.2 ⟨rfl, decide_eq_true h⟩

theorem lt_of_index? {cs : List Char} {n : Nat} (h : index? cs = some n) : n < UInt64.size := by
  obtain ⟨-, hword⟩ := Option.filter_eq_some_iff.1 h
  exact of_decide_eq_true hword

end Numeral

namespace Text

/-- Parts with a separator between them, written as an intercalation. -/
theorem intercalate_eq_joinChars (separator : Char) (parts : List (List Char)) :
    [separator].intercalate parts = joinChars separator parts := by
  induction parts with
  | nil => rfl
  | cons part later ih =>
      cases later with
      | nil => simp [joinChars, List.intercalate]
      | cons next later =>
          rw [joinChars_cons_cons, ← ih]
          simp [List.intercalate]

/-- No separator is left in the parts. -/
theorem not_mem_of_mem_splitChars {separator : Char} {cs part : List Char}
    (h : part ∈ splitChars separator cs) : separator ∉ part := by
  induction cs generalizing part with
  | nil =>
      rw [splitChars, List.mem_singleton] at h
      exact h ▸ List.not_mem_nil
  | cons c rest ih =>
      -- A separator begins a new part; any other character joins the first part of the rest.
      unfold splitChars at h
      cases hrest : splitChars separator rest with
      | nil => exact absurd hrest (splitChars_ne_nil separator rest)
      | cons first later =>
          rw [hrest] at h ih
          by_cases hc : c = separator
          · rw [if_pos hc] at h
            rcases List.mem_cons.1 h with rfl | hmem
            · exact List.not_mem_nil
            · exact ih hmem
          · rw [if_neg hc] at h
            rcases List.mem_cons.1 h with rfl | hmem
            · exact List.not_mem_cons_of_ne_of_not_mem (Ne.symm hc) (ih List.mem_cons_self)
            · exact ih (List.mem_cons_of_mem _ hmem)

end Text

/-! ## Chains -/

/-- One step down a value that a dotted path can write: a key without a dot, or an index, which is
a machine word. -/
inductive Link where
  | key (name : String) (dotless : '.' ∉ name.toList)
  | index (i : UInt64)

namespace Link

/-- A step as a part of a dotted path; an index is written in decimal. -/
def text : Link → String
  | .key name _ => name
  | .index i => toString i.toNat

/-- A chain of steps as a dotted path. -/
def dotted (chain : List Link) : String := ".".intercalate (chain.map text)

theorem dot_not_mem_text (link : Link) : '.' ∉ link.text.toList := by
  cases link with
  | key name dotless => exact dotless
  | index i =>
      intro hmem
      rw [text, Nat.toString_eq_repr, Nat.toList_repr] at hmem
      exact absurd (Nat.isDigit_of_mem_toDigits (by decide) (by decide) hmem) (by decide)

/-- The parts of the dotted path of a chain are its steps. -/
theorem splitChars_dotted {chain : List Link} (h : chain ≠ []) :
    Text.splitChars '.' (dotted chain).toList = chain.map (·.text.toList) := by
  have hjoined : (dotted chain).toList = Text.joinChars '.' (chain.map (·.text.toList)) := by
    rw [dotted, String.toList_intercalate, List.map_map]
    exact Text.intercalate_eq_joinChars '.' _
  rw [hjoined]
  apply Text.splitChars_joinChars
  · simpa using h
  · intro part hmem
    obtain ⟨link, -, rfl⟩ := List.mem_map.1 hmem
    exact link.dot_not_mem_text

end Link

namespace Value

/-- A step leads from a map to what it holds under a key, or from a list to an element. -/
inductive Leads : Value → Link → Value → Prop
  | entry {entries : Entries Value} {name : String} (dotless : '.' ∉ name.toList) {w : Value}
      (found : Entries.get? name entries = some w) : Leads (.map entries) (.key name dotless) w
  | element {items : List Value} {i : UInt64} {w : Value} (found : items[i.toNat]? = some w) :
      Leads (.list items) (.index i) w

/-- A chain leads from a value down to one of its nodes, step by step. -/
inductive Reaches : Value → List Link → Value → Prop
  | here (v : Value) : Reaches v [] v
  | step {v u w : Value} {link : Link} {later : List Link} (first : v.Leads link u)
      (onwards : Reaches u later w) : Reaches v (link :: later) w

variable {v w : Value}

theorem Leads.child?_eq {link : Link} (h : v.Leads link w) :
    v.child? link.text.toList = some w := by
  cases h with
  | @entry entries name _ _ found =>
      show Entries.get? (String.ofList name.toList) entries = some w
      rwa [String.ofList_toList]
  | @element items i _ found =>
      have hread : Numeral.index? (toString i.toNat).toList = some i.toNat := by
        rw [Nat.toString_eq_repr, Nat.toList_repr]
        exact Numeral.index?_toDigits i.toNat_lt_size
      simpa only [child?, Link.text, hread] using found

/-- What one part of a path finds is led to by a step, which the part may write in another way: an
index with a sign or with zeros in front. -/
theorem exists_leads_of_child? {part : List Char} (dotless : '.' ∉ part)
    (h : v.child? part = some w) : ∃ link, v.Leads link w := by
  cases v with
  | map entries =>
      have hname : '.' ∉ (String.ofList part).toList := by rwa [String.toList_ofList]
      exact ⟨.key (String.ofList part) hname, .entry hname h⟩
  | list items =>
      -- Only an index that fits a machine word is read at all, so it is one of a step.
      simp only [child?] at h
      cases hread : Numeral.index? part with
      | none => simp [hread] at h
      | some i =>
          rw [hread] at h
          have hword : i < UInt64.size := Numeral.lt_of_index? hread
          refine ⟨.index (UInt64.ofNat i), .element ?_⟩
          rwa [UInt64.toNat_ofNat_of_lt' hword]
  | _ => simp [child?] at h

/-- Following the parts that a chain writes finds the node that it leads to. -/
theorem Reaches.follow_eq {chain : List Link} (h : v.Reaches chain w) :
    v.follow (chain.map (·.text.toList)) = some w := by
  induction h with
  | here v => rfl
  | step first onwards ih =>
      rw [List.map_cons, follow, first.child?_eq]
      exact ih

theorem exists_reaches_of_follow {parts : List (List Char)} (dotless : ∀ part ∈ parts, '.' ∉ part)
    (h : v.follow parts = some w) : ∃ chain, chain.length = parts.length ∧ v.Reaches chain w := by
  induction parts generalizing v with
  | nil =>
      cases h
      exact ⟨[], rfl, .here _⟩
  | cons part rest ih =>
      obtain ⟨hpart, hrest⟩ := List.forall_mem_cons.1 dotless
      rw [follow] at h
      cases hchild : v.child? part with
      | none => simp [hchild] at h
      | some u =>
          rw [hchild] at h
          obtain ⟨link, hlink⟩ := exists_leads_of_child? hpart hchild
          obtain ⟨later, hlength, hlater⟩ := ih hrest h
          exact ⟨link :: later, congrArg (· + 1) hlength, .step hlink hlater⟩

theorem Reaches.lookup_eq {chain : List Link} (hne : chain ≠ []) (h : v.Reaches chain w) :
    v.lookup (Link.dotted chain) = some w := by
  unfold lookup
  rw [Link.splitChars_dotted hne]
  exact h.follow_eq

theorem exists_reaches_of_lookup {path : String} (h : v.lookup path = some w) :
    ∃ chain, chain ≠ [] ∧ v.Reaches chain w := by
  obtain ⟨chain, hlength, hchain⟩ :=
    exists_reaches_of_follow (fun _ hmem => Text.not_mem_of_mem_splitChars hmem) h
  refine ⟨chain, ?_, hchain⟩
  rintro rfl
  exact Text.splitChars_ne_nil '.' path.toList (List.length_eq_zero_iff.1 hlength.symm)

/-- A dotted path of two halves is followed one half after the other, whatever the halves are, and
finds nothing where the first one finds nothing.  Every node below a value is found under the chain
that leads to it, and nothing else is found. -/
theorem lookup_composes_and_reaches (v : Value) :
    (∀ p q : String, v.lookup (p ++ "." ++ q) = (v.lookup p).bind (·.lookup q)) ∧
    (∀ (chain : List Link) (w : Value), chain ≠ [] → v.Reaches chain w →
      v.lookup (Link.dotted chain) = some w) ∧
    ∀ (path : String) (w : Value), v.lookup path = some w →
      ∃ chain, chain ≠ [] ∧ v.Reaches chain w :=
  ⟨v.lookup_append, fun _ _ hne h => h.lookup_eq hne, fun _ _ h => exists_reaches_of_lookup h⟩

/-- A database with its two hosts. -/
def hosts : Value := .map [("db", .map [("hosts", .list [.string "a", .string "b"])])]

/-- The chain to the second host. -/
def secondHost : List Link := [.key "db" (by decide), .key "hosts" (by decide), .index 1]

/-- The second host is found under the path that writes its chain, and so it is with a zero in front
of the index. -/
theorem lookup_composes_and_reaches_hosts :
    hosts.Reaches secondHost (.string "b") ∧ Link.dotted secondHost = "db.hosts.1" ∧
      hosts.lookup "db.hosts.1" = some (.string "b") ∧
      hosts.lookup "db.hosts.01" = some (.string "b") ∧
      ∃ chain, chain ≠ [] ∧ hosts.Reaches chain (.string "b") := by
  have hchain : hosts.Reaches secondHost (.string "b") :=
    .step (.entry _ rfl) (.step (.entry _ rfl) (.step (.element rfl) (.here _)))
  have hdotted : Link.dotted secondHost = "db.hosts.1" := by decide
  have hpadded : hosts.lookup "db.hosts.01" = some (.string "b") := rfl
  obtain ⟨-, hreaches, hfinds⟩ := lookup_composes_and_reaches hosts
  refine ⟨hchain, hdotted, ?_, hpadded, hfinds _ _ hpadded⟩
  rw [← hdotted]
  exact hreaches secondHost _ (List.cons_ne_nil _ _) hchain

end Value

end DataCatalog
