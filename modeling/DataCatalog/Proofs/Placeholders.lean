import DataCatalog.Template.Token

/-!
# Templates of text and placeholders

A form is a template of literal text and placeholders such as `{{ table }}` or `{{ db.host }}`, in
which no tag opens but the placeholders.

Main statement: `Piece.scan_source` says into which pieces a form is taken apart.
-/

set_option autoImplicit false

namespace DataCatalog.Template

/-! ## Forms -/

/-- The names that mean something by themselves where an expression begins: constants, the operator
of one operand, and functions. -/
def taken : List String :=
  ["true", "True", "false", "False", "none", "None", "not", "env", "range", "dict", "namespace",
    "debug"]

/-- An identifier. -/
structure Name where
  chars : List Char
  proper : Text.isIdentifier chars = true

def Name.text (n : Name) : String := String.ofList n.chars

/-- Names with a dot before each. -/
def dotted (names : List Name) : List Char :=
  names.flatMap fun n => '.' :: n.chars

/-- A path of names between the marks of a tag, with or without blanks beside it. -/
structure Placeholder where
  before : List Char
  first : Name
  later : List Name
  after : List Char
  before_gap : ∀ c ∈ before, Piece.isGap c = true
  after_gap : ∀ c ∈ after, Piece.isGap c = true
  first_free : first.text ∉ taken

namespace Placeholder

/-- A path with a blank on each side. -/
def spaced (first : Name) (later : List Name) (first_free : first.text ∉ taken) : Placeholder where
  before := [' ']
  first := first
  later := later
  after := [' ']
  before_gap := List.forall_mem_singleton.2 rfl
  after_gap := List.forall_mem_singleton.2 rfl
  first_free := first_free

/-- The names of the path. -/
def path (p : Placeholder) : List String := p.first.text :: p.later.map Name.text

/-- What comes before the path. -/
def opening (p : Placeholder) : List Char := '{' :: '{' :: p.before

/-- What comes after the first name. -/
def ending (p : Placeholder) : List Char := dotted p.later ++ (p.after ++ ['}', '}'])

/-- The placeholder as it is written. -/
def source (p : Placeholder) : List Char := p.opening ++ (p.first.chars ++ p.ending)

end Placeholder

/-- A placeholder and the literal text up to the next one. -/
structure Field where
  placeholder : Placeholder
  text : List Char

/-- Placeholders with the texts after them, as they are written. -/
def sourceOf (fields : List Field) : List Char :=
  fields.flatMap fun f => f.placeholder.source ++ f.text

/-- A tag opens only where a placeholder begins. -/
def OwnOpenings (lead : List Char) (fields : List Field) : Prop :=
  ∀ front back, lead ++ sourceOf fields = front ++ back → Piece.opensTag back = true →
    ∃ done f rest, fields = done ++ f :: rest ∧ front = lead ++ sourceOf done

/-- A template of literal text and placeholders. -/
structure Form where
  lead : List Char
  fields : List Field
  own_openings : OwnOpenings lead fields

def Form.source (form : Form) : List Char := form.lead ++ sourceOf form.fields

theorem sourceOf_nil : sourceOf [] = [] := rfl

theorem sourceOf_cons (f : Field) (rest : List Field) :
    sourceOf (f :: rest) = f.placeholder.source ++ (f.text ++ sourceOf rest) := by
  simp [sourceOf]

namespace OwnOpenings

variable {lead : List Char} {f : Field} {fields : List Field}

/-- No tag opens in the text before the first placeholder. -/
theorem lead_opens_none (h : OwnOpenings lead fields) {front back : List Char}
    (hlead : lead = front ++ back) (hback : back ≠ []) :
    Piece.opensTag (back ++ sourceOf fields) = false := by
  refine Bool.eq_false_iff.2 fun hopens => ?_
  obtain ⟨done, g, rest, -, hfront⟩ :=
    h front (back ++ sourceOf fields) (by rw [hlead, List.append_assoc]) hopens
  have hlength := congrArg List.length (hlead.trans (congrArg (· ++ back) hfront))
  have hpos := List.length_pos_iff.2 hback
  simp only [List.length_append] at hlength
  omega

/-- What comes after a placeholder is a form again. -/
theorem tail (h : OwnOpenings lead (f :: fields)) : OwnOpenings f.text fields := by
  intro front back hsource hopens
  obtain ⟨done, g, rest, hfields, hfront⟩ :=
    h (lead ++ (f.placeholder.source ++ front)) back
      (by rw [sourceOf_cons, hsource]; simp only [List.append_assoc]) hopens
  rw [List.append_cancel_left_eq] at hfront
  cases done with
  | nil => simp [sourceOf, Placeholder.source, Placeholder.opening] at hfront
  | cons first done =>
      obtain ⟨rfl, hrest⟩ := List.cons.inj hfields
      rw [sourceOf_cons, List.append_cancel_left_eq] at hfront
      exact ⟨done, g, rest, hrest, hfront⟩

end OwnOpenings

/-- Every place of a template can be looked at in turn. -/
theorem ownOpenings_iff {lead : List Char} {fields : List Field} :
    OwnOpenings lead fields ↔
      ∀ n < (lead ++ sourceOf fields).length,
        Piece.opensTag ((lead ++ sourceOf fields).drop n) = true →
          ∃ k < fields.length,
            (lead ++ sourceOf fields).take n = lead ++ sourceOf (fields.take k) := by
  constructor
  · intro h n _ hopens
    obtain ⟨done, f, rest, rfl, hfront⟩ := h _ _ (List.take_append_drop n _).symm hopens
    refine ⟨done.length, ?_, ?_⟩
    · rw [List.length_append, List.length_cons]
      omega
    · rw [hfront, List.take_left]
  · intro h front back hsource hopens
    have hback : back ≠ [] := by
      rintro rfl
      cases hopens
    have hlength : front.length < (lead ++ sourceOf fields).length := by
      have hpos := List.length_pos_iff.2 hback
      rw [hsource, List.length_append]
      omega
    obtain ⟨k, hk, htake⟩ := h front.length hlength (by rwa [hsource, List.drop_left])
    rw [hsource, List.take_left] at htake
    exact ⟨fields.take k, fields[k], fields.drop (k + 1),
      by rw [List.getElem_cons_drop, List.take_append_drop], htake⟩

instance (lead : List Char) (fields : List Field) : Decidable (OwnOpenings lead fields) :=
  decidable_of_iff _ ownOpenings_iff.symm

/-! ## Places -/

namespace Spot

@[simp] theorem after_nil (s : Spot) : s.after [] = s := by
  simp [after]

theorem after_append (s : Spot) (front back : List Char) :
    s.after (front ++ back) = (s.after front).after back := by
  simp [after, Nat.add_assoc]

end Spot

/-! ## Characters -/

namespace Piece

theorem passed_append (front back : List Char) : passed (front ++ back) back = front := by
  simp [passed]

/-- A character that can stand neither in a gap, nor in a mark or sign at the end of a tag. -/
structure Plain (c : Char) : Prop where
  not_gap : isGap c = false
  not_mark : c ≠ '}'
  not_minus : c ≠ '-'
  not_plus : c ≠ '+'

theorem eq_of_isGap {c : Char} (h : isGap c = true) :
    c = ' ' ∨ c = '\t' ∨ c = '\n' ∨ c = '\r' ∨ c = Char.ofNat 12 := by
  unfold isGap at h
  simp only [Bool.or_eq_true, beq_iff_eq] at h
  obtain (((h | h) | h) | h) | h := h
  · exact .inl h
  · exact .inr (.inl h)
  · exact .inr (.inr (.inl h))
  · exact .inr (.inr (.inr (.inl h)))
  · exact .inr (.inr (.inr (.inr (by rw [← h, Char.ofNat_toNat]))))

theorem isWordChar_of_isGap {c : Char} (h : isGap c = true) : Text.isWordChar c = false := by
  obtain rfl | rfl | rfl | rfl | rfl := eq_of_isGap h <;> decide

theorem plain_of_isLetter {c : Char} (h : Text.isLetter c = true) : Plain c where
  not_gap := by
    refine Bool.eq_false_iff.2 fun hgap => ?_
    have hword := isWordChar_of_isGap hgap
    unfold Text.isWordChar at hword
    rw [h] at hword
    cases hword
  not_mark := by
    rintro rfl
    cases h
  not_minus := by
    rintro rfl
    cases h
  not_plus := by
    rintro rfl
    cases h

theorem plain_dot : Plain '.' where
  not_gap := by decide
  not_mark := by decide
  not_minus := by decide
  not_plus := by decide

end Piece

namespace Name

/-- A name begins with a letter and goes on with word characters. -/
theorem exists_chars (n : Name) :
    ∃ c rest, n.chars = c :: rest ∧ Text.isLetter c = true ∧
      ∀ d ∈ rest, Text.isWordChar d = true := by
  obtain ⟨chars, proper⟩ := n
  cases chars with
  | nil => cases proper
  | cons c rest =>
      unfold Text.isIdentifier at proper
      rw [Bool.and_eq_true, List.all_eq_true] at proper
      exact ⟨c, rest, rfl, proper.1, proper.2⟩

end Name

/-- The names after the first one are fewer than half of the characters up to the end. -/
theorem Placeholder.length_later_lt (p : Placeholder) :
    2 * p.later.length < p.ending.length := by
  have hdotted : ∀ later : List Name, 2 * later.length ≤ (dotted later).length := by
    intro later
    induction later with
    | nil => exact Nat.zero_le _
    | cons n later ih =>
        obtain ⟨c, rest, hchars, -, -⟩ := n.exists_chars
        simp only [dotted, List.flatMap_cons, hchars, List.length_append, List.length_cons] at ih ⊢
        omega
  have hlater := hdotted p.later
  simp only [Placeholder.ending, List.length_append, List.length_cons]
  omega

/-- Every placeholder has characters of its own. -/
theorem length_fields_le (fields : List Field) : fields.length ≤ (sourceOf fields).length := by
  induction fields with
  | nil => exact Nat.zero_le _
  | cons f fields ih =>
      rw [sourceOf_cons]
      simp only [Placeholder.source, Placeholder.opening, List.length_append, List.length_cons]
      omega

/-- A text that does not go on with a word. -/
def StopsWord (cs : List Char) : Prop := ∀ c rest, cs = c :: rest → Text.isWordChar c = false

theorem stopsWord_cons {c : Char} {rest : List Char} (h : Text.isWordChar c = false) :
    StopsWord (c :: rest) := by
  rintro _ _ ⟨⟩
  exact h

/-- A name ends before a dot, a gap or a closing mark. -/
theorem stopsWord_ending (later : List Name) {after : List Char}
    (hafter : ∀ c ∈ after, Piece.isGap c = true) (rest : List Char) :
    StopsWord (dotted later ++ (after ++ '}' :: '}' :: rest)) := by
  cases later with
  | cons n later => exact stopsWord_cons (by decide)
  | nil =>
      cases after with
      | nil => exact stopsWord_cons (by decide)
      | cons c after =>
          exact stopsWord_cons (Piece.isWordChar_of_isGap (hafter c List.mem_cons_self))

namespace Lexeme

theorem takeWhile_of_stopsWord {cs : List Char} (h : StopsWord cs) :
    cs.takeWhile Text.isWordChar = [] ∧ cs.dropWhile Text.isWordChar = cs := by
  cases cs with
  | nil => exact ⟨rfl, rfl⟩
  | cons c rest => simp [h c rest rfl]

/-- A name is read up to where the word ends. -/
theorem read?_name (afterDot : Bool) (n : Name) {rest : List Char} (hrest : StopsWord rest) :
    read? afterDot (n.chars ++ rest) = some (.name n.text, rest) := by
  obtain ⟨c, cs, hchars, hc, hcs⟩ := n.exists_chars
  obtain ⟨htake, hdrop⟩ := takeWhile_of_stopsWord hrest
  unfold Name.text
  rw [hchars, List.cons_append, read?, if_pos hc, List.takeWhile_append_of_pos hcs, htake,
    List.dropWhile_append_of_pos hcs, hdrop, List.append_nil]

/-- A dot is a symbol of its own, whatever follows it. -/
theorem symbol?_dot (c : Char) (rest : List Char) :
    symbol? ('.' :: c :: rest) = some (.symbol ".", c :: rest) := by
  have hlong : longSymbols.contains (String.ofList ['.', c]) = false := by
    simp [longSymbols, ← String.toList_inj]
  have hshort : shortSymbols.contains '.' = true := by decide
  unfold symbol?
  dsimp only
  rw [hlong, hshort]
  rfl

theorem read?_dot (afterDot : Bool) (c : Char) (rest : List Char) :
    read? afterDot ('.' :: c :: rest) = some (.symbol ".", c :: rest) := by
  have hletter : Text.isLetter '.' = false := by decide
  have hdigit : Numeral.isDigit '.' = false := by decide
  rw [read?, hletter, hdigit, ← symbol?_dot c rest]
  rfl

end Lexeme

/-! ## The tokens of a placeholder -/

/-- The tokens of names with a dot before each. -/
def dottedTokens (spot : Spot) : List Name → List Token
  | [] => []
  | n :: later =>
      let dot := spot.after ['.']
      let stop := spot.after ('.' :: n.chars)
      ⟨.symbol ".", spot, dot.offset⟩ :: ⟨.name n.text, dot, stop.offset⟩ ::
        dottedTokens stop later

/-- The tokens of a placeholder whose opening mark ends at a place. -/
def Placeholder.tokens (p : Placeholder) (spot : Spot) : List Token :=
  let start := spot.after p.before
  let stop := start.after p.first.chars
  ⟨.name p.first.text, start, stop.offset⟩ :: dottedTokens stop p.later

namespace Piece

theorem takeWhile_gap {gap rest : List Char} (hgap : ∀ c ∈ gap, isGap c = true)
    (hrest : ∀ c cs, rest = c :: cs → isGap c = false) :
    (gap ++ rest).takeWhile isGap = gap ∧ (gap ++ rest).dropWhile isGap = rest := by
  rw [List.takeWhile_append_of_pos hgap, List.dropWhile_append_of_pos hgap]
  cases rest with
  | nil => simp
  | cons c cs => simp [hrest c cs rfl]

/-- A text that does not begin with a sign. -/
theorem takeSign_of_ne {c : Char} (hminus : c ≠ '-') (hplus : c ≠ '+') (rest : List Char) :
    takeSign (c :: rest) = (false, c :: rest) := by
  unfold takeSign
  split
  · rename_i heq
    exact absurd (List.cons.inj heq).1 hminus
  · rename_i heq
    exact absurd (List.cons.inj heq).1 hplus
  · rfl

theorem closing?_of_plain {c : Char} (h : Plain c) (rest : List Char) :
    closing? ['}', '}'] (c :: rest) = none := by
  unfold closing?
  rw [takeSign_of_ne h.not_minus h.not_plus]
  simp [Text.after?, h.not_mark.symm]

/-- The end of a tag after a gap. -/
theorem tokensFrom_close {gap : List Char} (hgap : ∀ c ∈ gap, isGap c = true) (fuel : Nat)
    (afterDot : Bool) (spot : Spot) (rest : List Char) :
    tokensFrom ['}', '}'] (fuel + 1) 0 afterDot spot (gap ++ '}' :: '}' :: rest) =
      some ⟨[], false, spot.after (gap ++ ['}', '}']), rest⟩ := by
  have hmark : ∀ c cs, '}' :: '}' :: rest = c :: cs → isGap c = false := by
    rintro _ _ ⟨⟩
    decide
  obtain ⟨htake, hdrop⟩ := takeWhile_gap hgap hmark
  have hclosing : closing? ['}', '}'] ('}' :: '}' :: rest) = some (false, rest) := rfl
  unfold tokensFrom
  rw [htake, hdrop]
  dsimp only
  rw [if_pos rfl, hclosing]
  dsimp only
  rw [show '}' :: '}' :: rest = ['}', '}'] ++ rest from rfl, passed_append, Spot.after_append]

/-- A token after a gap. -/
theorem tokensFrom_token (gap : List Char) {chars rest : List Char} {lexeme : Lexeme}
    {afterDot : Bool} (hgap : ∀ c ∈ gap, isGap c = true)
    (hplain : ∃ c cs, chars = c :: cs ∧ Plain c)
    (hread : Lexeme.read? afterDot (chars ++ rest) = some (lexeme, rest))
    (hnesting : lexeme.nesting = 0) (fuel : Nat) (spot : Spot) :
    tokensFrom ['}', '}'] (fuel + 1) 0 afterDot spot (gap ++ (chars ++ rest)) =
      (tokensFrom ['}', '}'] fuel 0 (lexeme = .symbol ".") ((spot.after gap).after chars)
        rest).map fun tag =>
          { tag with
            tokens := ⟨lexeme, spot.after gap, ((spot.after gap).after chars).offset⟩ ::
              tag.tokens } := by
  obtain ⟨c, cs, rfl, hc⟩ := hplain
  have hhead : ∀ d ds, c :: cs ++ rest = d :: ds → isGap d = false := by
    rintro _ _ ⟨⟩
    exact hc.not_gap
  obtain ⟨htake, hdrop⟩ := takeWhile_gap hgap hhead
  have hclosing : closing? ['}', '}'] (c :: cs ++ rest) = none := closing?_of_plain hc _
  rw [tokensFrom, htake, hdrop]
  dsimp only
  rw [if_pos rfl, hclosing]
  dsimp only
  rw [hread]
  dsimp only
  rw [hnesting, passed_append]
  rfl

/-- The names after the first one, up to the closing mark. -/
theorem tokensFrom_dotted {later : List Name} {after : List Char}
    (hafter : ∀ c ∈ after, isGap c = true) (rest : List Char) {fuel : Nat}
    (hfuel : 2 * later.length < fuel) (spot : Spot) :
    tokensFrom ['}', '}'] fuel 0 false spot (dotted later ++ (after ++ '}' :: '}' :: rest)) =
      some ⟨dottedTokens spot later, false, spot.after (dotted later ++ (after ++ ['}', '}'])),
        rest⟩ := by
  induction later generalizing fuel spot with
  | nil =>
      obtain ⟨fuel, rfl⟩ := Nat.exists_eq_succ_of_ne_zero (Nat.ne_zero_of_lt hfuel)
      exact tokensFrom_close hafter fuel false spot rest
  | cons n later ih =>
      obtain ⟨c, cs, hchars, hc, -⟩ := n.exists_chars
      rw [List.length_cons] at hfuel
      obtain ⟨fuel, rfl⟩ := Nat.exists_eq_add_of_le' (show 2 ≤ fuel by omega)
      have hless : 2 * later.length < fuel := by omega
      obtain ⟨tail, htail⟩ :
        ∃ tail, tail = dotted later ++ (after ++ '}' :: '}' :: rest) := ⟨_, rfl⟩
      have hdot : Lexeme.read? false (['.'] ++ (n.chars ++ tail)) =
          some (.symbol ".", n.chars ++ tail) := by
        rw [hchars]
        exact Lexeme.read?_dot false c (cs ++ tail)
      have hname : Lexeme.read? true (n.chars ++ tail) = some (.name n.text, tail) :=
        Lexeme.read?_name true n (htail ▸ stopsWord_ending later hafter rest)
      have hsource : dotted (n :: later) ++ (after ++ '}' :: '}' :: rest) =
          ['.'] ++ (n.chars ++ tail) := by
        simp [dotted, htail]
      -- no gap stands before the dot, nor between the dot and the name
      have hfirst := tokensFrom_token [] (fun _ h => absurd h List.not_mem_nil)
        ⟨'.', [], rfl, plain_dot⟩ hdot rfl (fuel + 1) spot
      have hsecond := tokensFrom_token [] (fun _ h => absurd h List.not_mem_nil)
        ⟨c, cs, hchars, plain_of_isLetter hc⟩ hname rfl fuel (spot.after ['.'])
      rw [List.nil_append, Spot.after_nil] at hfirst hsecond
      rw [decide_eq_true rfl] at hfirst
      rw [decide_eq_false (by simp), ← Spot.after_append] at hsecond
      have hlater := ih hless (spot.after (['.'] ++ n.chars))
      rw [← htail, ← Spot.after_append] at hlater
      have hend : dotted (n :: later) ++ (after ++ ['}', '}']) =
          ['.'] ++ n.chars ++ (dotted later ++ (after ++ ['}', '}'])) := by
        simp [dotted]
      rw [hsource, hfirst, hsecond, hlater, hend]
      rfl

/-- The tokens of a placeholder, after its opening mark. -/
theorem tokensFrom_placeholder (p : Placeholder) (rest : List Char) {fuel : Nat}
    (hfuel : 2 * p.later.length + 1 < fuel) (spot : Spot) :
    tokensFrom ['}', '}'] fuel 0 false spot (p.before ++ (p.first.chars ++ (p.ending ++ rest))) =
      some ⟨p.tokens spot, false, spot.after (p.before ++ (p.first.chars ++ p.ending)), rest⟩ := by
  obtain ⟨c, cs, hchars, hc, -⟩ := p.first.exists_chars
  obtain ⟨fuel, rfl⟩ := Nat.exists_eq_add_of_le' (show 1 ≤ fuel by omega)
  have hless : 2 * p.later.length < fuel := by omega
  have hending : p.ending ++ rest = dotted p.later ++ (p.after ++ '}' :: '}' :: rest) := by
    simp [Placeholder.ending]
  have hname : Lexeme.read? false (p.first.chars ++ (p.ending ++ rest)) =
      some (.name p.first.text, p.ending ++ rest) := by
    rw [hending]
    exact Lexeme.read?_name false p.first (stopsWord_ending p.later p.after_gap rest)
  have hspot : spot.after (p.before ++ (p.first.chars ++ p.ending)) =
      ((spot.after p.before).after p.first.chars).after p.ending := by
    rw [Spot.after_append, Spot.after_append]
  rw [tokensFrom_token p.before p.before_gap ⟨c, cs, hchars, plain_of_isLetter hc⟩ hname rfl,
    decide_eq_false (by simp), hending, tokensFrom_dotted p.after_gap rest hless, hspot]
  rfl

/-! ## The pieces of a form -/

/-- Text goes on up to where a tag opens. -/
theorem untilTag_append {lead back : List Char}
    (hlead : ∀ front rest, lead = front ++ rest → rest ≠ [] → opensTag (rest ++ back) = false)
    (hback : back = [] ∨ opensTag back = true) : untilTag (lead ++ back) = (lead, back) := by
  induction lead with
  | nil =>
      cases back with
      | nil => rfl
      | cons c cs =>
          have hopens := hback.resolve_left (List.cons_ne_nil c cs)
          rw [List.nil_append, untilTag, if_pos hopens]
  | cons c lead ih =>
      have hnone : opensTag (c :: (lead ++ back)) = false :=
        hlead [] (c :: lead) rfl (List.cons_ne_nil c lead)
      have hrest := ih fun front rest heq => hlead (c :: front) rest (congrArg (c :: ·) heq)
      rw [List.cons_append, untilTag, hnone, hrest]
      rfl

/-- The pieces of a text and placeholders, from a place on. -/
def piecesOf (spot : Spot) (lead : List Char) : List Field → List Piece
  | [] => [.text lead]
  | f :: rest =>
      let start := spot.after lead
      let body := start.after ['{', '{']
      .text lead :: .output ⟨start, body.offset⟩ (f.placeholder.tokens body) ::
        piecesOf (start.after f.placeholder.source) f.text rest

theorem length_piecesOf (spot : Spot) (lead : List Char) (fields : List Field) :
    (piecesOf spot lead fields).length = 2 * fields.length + 1 := by
  induction fields generalizing spot lead with
  | nil => rfl
  | cons f fields ih =>
      simp only [piecesOf, List.length_cons, ih]
      omega

/-- A placeholder's path does not begin with a sign. -/
theorem takeSign_placeholder (p : Placeholder) (rest : List Char) :
    takeSign (p.before ++ (p.first.chars ++ rest)) =
      (false, p.before ++ (p.first.chars ++ rest)) := by
  cases hbefore : p.before with
  | nil =>
      obtain ⟨c, cs, hchars, hc, -⟩ := p.first.exists_chars
      have hplain := plain_of_isLetter hc
      rw [hchars]
      exact takeSign_of_ne hplain.not_minus hplain.not_plus _
  | cons c cs =>
      have hgap := p.before_gap c (hbefore ▸ List.mem_cons_self)
      refine takeSign_of_ne ?_ ?_ _
      · rintro rfl
        cases hgap
      · rintro rfl
        cases hgap

theorem scanFrom_text {cs lead : List Char} (h : untilTag cs = (lead, [])) (fuel : Nat)
    (spot : Spot) : scanFrom (fuel + 1) false spot cs = some [.text lead] := by
  rw [scanFrom]
  simp [h]

/-- A text and a tag that prints an expression. -/
theorem scanFrom_output {cs lead inside : List Char} {tag : TagRest} {spot : Spot}
    (h : untilTag cs = (lead, '{' :: '{' :: inside)) (hsign : takeSign inside = (false, inside))
    (htag : tokensFrom ['}', '}'] (inside.length + 1) 0 false
      ((spot.after lead).after ['{', '{']) inside = some tag) (fuel : Nat) :
    scanFrom (fuel + 1) false spot cs =
      (scanFrom fuel tag.trims tag.spot tag.rest).map fun later =>
        .text lead :: .output ⟨spot.after lead, ((spot.after lead).after ['{', '{']).offset⟩
          tag.tokens :: later := by
  have hpassed : passed ('{' :: '{' :: inside) inside = ['{', '{'] :=
    passed_append ['{', '{'] inside
  rw [scanFrom]
  simp [h, hsign, hpassed, htag, Function.comp_def]

/-- One text and the placeholder after it. -/
theorem scanFrom_cons {lead : List Char} {f : Field} {fields : List Field}
    (hown : OwnOpenings lead (f :: fields)) (fuel : Nat) (spot : Spot) :
    scanFrom (fuel + 1) false spot (lead ++ sourceOf (f :: fields)) =
      (scanFrom fuel false ((spot.after lead).after f.placeholder.source)
        (f.text ++ sourceOf fields)).map fun later =>
          .text lead :: .output ⟨spot.after lead, ((spot.after lead).after ['{', '{']).offset⟩
            (f.placeholder.tokens ((spot.after lead).after ['{', '{'])) :: later := by
  have hsource : sourceOf (f :: fields) =
      '{' :: '{' :: (f.placeholder.before ++ (f.placeholder.first.chars ++
        (f.placeholder.ending ++ (f.text ++ sourceOf fields)))) := by
    simp [sourceOf_cons, Placeholder.source, Placeholder.opening]
  have huntil := untilTag_append (fun _ _ => hown.lead_opens_none)
    (.inr (by rw [hsource]; rfl))
  rw [hsource] at huntil
  have hfuel : 2 * f.placeholder.later.length + 1 <
      (f.placeholder.before ++ (f.placeholder.first.chars ++
        (f.placeholder.ending ++ (f.text ++ sourceOf fields)))).length + 1 := by
    have hending := f.placeholder.length_later_lt
    simp only [List.length_append]
    omega
  have htag := tokensFrom_placeholder f.placeholder (f.text ++ sourceOf fields) hfuel
    ((spot.after lead).after ['{', '{'])
  have hspot : ∀ start : Spot, start.after f.placeholder.source =
      (start.after ['{', '{']).after
        (f.placeholder.before ++ (f.placeholder.first.chars ++ f.placeholder.ending)) := by
    intro start
    rw [← Spot.after_append]
    rfl
  rw [hsource, scanFrom_output huntil (takeSign_placeholder _ _) htag, hspot]

/-- Every placeholder has its own piece, and the texts between them are kept. -/
theorem scanFrom_form {lead : List Char} {fields : List Field} (hown : OwnOpenings lead fields)
    {fuel : Nat} (hfuel : fields.length < fuel) (spot : Spot) :
    scanFrom fuel false spot (lead ++ sourceOf fields) = some (piecesOf spot lead fields) := by
  induction fields generalizing lead fuel spot with
  | nil =>
      obtain ⟨fuel, rfl⟩ := Nat.exists_eq_succ_of_ne_zero (Nat.ne_zero_of_lt hfuel)
      exact scanFrom_text (untilTag_append (fun _ _ => hown.lead_opens_none) (.inl rfl)) fuel spot
  | cons f fields ih =>
      obtain ⟨fuel, rfl⟩ := Nat.exists_eq_succ_of_ne_zero (Nat.ne_zero_of_lt hfuel)
      rw [List.length_cons] at hfuel
      rw [scanFrom_cons hown, ih hown.tail (Nat.lt_of_succ_lt_succ hfuel)]
      rfl

/-- A form is taken apart into its texts and its placeholders. -/
theorem scan_source (form : Form) :
    scan form.source = some (piecesOf ⟨0, 1⟩ form.lead form.fields) := by
  have hlength := length_fields_le form.fields
  have hfuel : form.fields.length < form.source.length + 1 := by
    simp only [Form.source, List.length_append]
    omega
  exact scanFrom_form form.own_openings hfuel ⟨0, 1⟩

end Piece

end DataCatalog.Template
