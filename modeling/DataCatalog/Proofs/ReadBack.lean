import DataCatalog.Proofs.Isolation

/-!
# What a file gives back

A file of lines is written by putting an end after every text, and read by taking the whole apart at
line ends.  Nothing else marks where a text ends, so that a text with a line feed in it comes back
in several parts, and a carriage return at the end of a text is lost to the line end.
`Text.IsLine` are the texts of which neither holds.

Main statement: `Catalog.given_back` says what is read after a write to a text file or a file of
lines, and that it is what was written exactly when every text for a file of lines is a line.
-/

set_option autoImplicit false

namespace DataCatalog

/-! ## Lines and their ends -/

namespace Text

/-- A text that is one line: no line feed is in it, and no carriage return is at its end. -/
structure IsLine (line : String) : Prop where
  no_feed : '\n' ∉ line.toList
  no_return : line.toList.getLast? ≠ some '\r'

theorem lineChars_ne_nil {cs : List Char} (h : cs ≠ []) : lineChars cs ≠ [] := by
  cases cs using lineChars.fun_cases_unfolding with
  | case1 => exact absurd rfl h
  | case2 rest => exact List.cons_ne_nil _ _
  | case3 rest => exact List.cons_ne_nil _ _
  | case4 c rest => exact List.cons_ne_nil _ _
  | case5 c rest => exact List.cons_ne_nil _ _

/-- A character that begins no line end is the first of its line. -/
theorem lineChars_cons_cons {c d : Char} {rest line : List Char} {later : List (List Char)}
    (hfeed : c ≠ '\n') (hreturn : c = '\r' → d ≠ '\n')
    (h : lineChars (d :: rest) = line :: later) :
    lineChars (c :: d :: rest) = (c :: line) :: later := by
  rw [lineChars.eq_4 c (d :: rest) hfeed fun _ hc hrest => hreturn hc (List.cons.inj hrest).1, h]

/-- A line feed ends whatever line it is in: what is before it and what is after it are taken apart
on their own. -/
theorem lineChars_append (cs rest : List Char) :
    lineChars (cs ++ '\n' :: rest) = lineChars (cs ++ ['\n']) ++ lineChars rest := by
  induction cs using lineChars.induct with
  | case1 => rfl
  | case2 cs ih => exact congrArg ([] :: ·) ih
  | case3 cs ih => exact congrArg ([] :: ·) ih
  | case4 c cs hfeed hreturn hnil ih =>
      -- the last character before the line feed, which may belong to the line end
      obtain rfl : cs = [] := Classical.byContradiction fun hne => lineChars_ne_nil hne hnil
      by_cases hc : c = '\r'
      · subst hc
        rfl
      · have hplain (tail : List Char) :
            lineChars (c :: '\n' :: tail) = [c] :: lineChars tail :=
          lineChars_cons_cons hfeed (fun heq => absurd heq hc) rfl
        exact (hplain rest).trans (congrArg (· ++ lineChars rest) (hplain []).symm)
  | case5 c cs hfeed hreturn line later hlines ih =>
      -- the first line ends further on, and `c` joins it on both sides
      cases cs with
      | nil => cases hlines
      | cons d cs =>
          have hnext : c = '\r' → d ≠ '\n' := fun hc hd => hreturn cs hc (hd ▸ rfl)
          cases hended : lineChars (d :: cs ++ ['\n']) with
          | nil => exact absurd hended (lineChars_ne_nil (List.cons_ne_nil _ _))
          | cons line' later' =>
              rw [hended] at ih
              have hwhole := lineChars_cons_cons hfeed hnext ih
              have hfront := lineChars_cons_cons hfeed hnext hended
              exact hwhole.trans (congrArg (· ++ lineChars rest) hfront.symm)

/-- Characters with a line feed after them are one line if no line end is in them, and none begins
at their end. -/
theorem lineChars_ended_eq_iff (cs : List Char) :
    lineChars (cs ++ ['\n']) = [cs] ↔ '\n' ∉ cs ∧ cs.getLast? ≠ some '\r' := by
  induction cs using lineChars.induct with
  | case1 => simp [lineChars]
  | case2 cs ih => simp [lineChars]
  | case3 cs ih => simp [lineChars]
  | case4 c cs hfeed hreturn hnil ih =>
      obtain rfl : cs = [] := Classical.byContradiction fun hne => lineChars_ne_nil hne hnil
      by_cases hc : c = '\r'
      · subst hc
        simp [lineChars]
      · have hplain : lineChars ([c] ++ ['\n']) = [[c]] :=
          lineChars_cons_cons hfeed (fun heq => absurd heq hc) rfl
        rw [hplain]
        simp [Ne.symm hfeed, hc]
  | case5 c cs hfeed hreturn line later hlines ih =>
      cases cs with
      | nil => cases hlines
      | cons d cs =>
          have hnext : c = '\r' → d ≠ '\n' := fun hc hd => hreturn cs hc (hd ▸ rfl)
          cases hended : lineChars (d :: cs ++ ['\n']) with
          | nil => exact absurd hended (lineChars_ne_nil (List.cons_ne_nil _ _))
          | cons line' later' =>
              have hwhole : lineChars (c :: d :: cs ++ ['\n']) = (c :: line') :: later' :=
                lineChars_cons_cons hfeed hnext hended
              rw [hended] at ih
              rw [hwhole]
              simpa [Ne.symm hfeed] using ih

theorem lines_append_feed (line rest : String) :
    lines (line ++ "\n" ++ rest) = lines (line ++ "\n") ++ lines rest := by
  have hfeed : "\n".toList = ['\n'] := rfl
  unfold lines
  rw [String.toList_append, String.toList_append, hfeed, List.append_assoc, List.singleton_append,
    lineChars_append, List.map_append]

theorem lines_feed_ne_nil (line : String) : lines (line ++ "\n") ≠ [] := by
  intro h
  refine lineChars_ne_nil ?_ (List.map_eq_nil_iff.1 h)
  simp

/-- A text with a line end after it is read as that text exactly if it is a line. -/
theorem lines_feed_eq_iff (line : String) : lines (line ++ "\n") = [line] ↔ IsLine line := by
  have hchars : lines (line ++ "\n") = [line] ↔
      lineChars (line.toList ++ ['\n']) = [line.toList] := by
    constructor
    · intro h
      have hlists := congrArg (List.map String.toList) h
      simpa [lines, Function.comp_def] using hlists
    · intro h
      simp [lines, h]
  rw [hchars, lineChars_ended_eq_iff]
  exact ⟨fun h => ⟨h.1, h.2⟩, fun h => ⟨h.1, h.2⟩⟩

end Text

/-! ## What is written, and what comes back -/

namespace FileFormat

/-- The data that a text file and a file of lines take: a text, and a list of texts. -/
inductive Takes : FileFormat → Value → Prop
  | text (content : String) : Takes .text (.string content)
  | lines (texts : List String) : Takes .lines (.list (texts.map .string))

/-- The data that comes back from a text file and a file of lines as it was written. -/
inductive Keeps : FileFormat → Value → Prop
  | text (content : String) : Keeps .text (.string content)
  | lines (texts : List String) (whole : ∀ line ∈ texts, Text.IsLine line) :
      Keeps .lines (.list (texts.map .string))

/-- The lines of which a text in a file of lines consists. -/
def linesOf : Value → List Value
  | .string line => (Text.lines (line ++ "\n")).map .string
  | other => [other]

/-- What comes back of data that was written: the lines of all texts for a file of lines, and the
data itself else. -/
def back : FileFormat → Value → Value
  | .lines, .list items => .list (items.flatMap linesOf)
  | _, data => data

theorem linesOf_ne_nil (v : Value) : linesOf v ≠ [] := by
  cases v with
  | string line => exact fun h => Text.lines_feed_ne_nil line (List.map_eq_nil_iff.1 h)
  | _ => exact List.cons_ne_nil _ _

theorem linesOf_string_eq_iff (line : String) :
    linesOf (.string line) = [.string line] ↔ Text.IsLine line := by
  rw [← Text.lines_feed_eq_iff]
  constructor
  · intro h
    apply List.map_injective_iff.2 fun _ _ => Value.string.inj
    exact h
  · intro h
    exact congrArg (List.map Value.string) h

/-- Every element is replaced by at least one. -/
theorem length_le_length_flatMap_linesOf (items : List Value) :
    items.length ≤ (items.flatMap linesOf).length := by
  induction items with
  | nil => exact Nat.le_refl _
  | cons v rest ih =>
      have hpos := List.length_pos_of_ne_nil (linesOf_ne_nil v)
      rw [List.flatMap_cons, List.length_append, List.length_cons]
      omega

/-- Only texts of one line come back as they are, since each comes back as one line at least. -/
theorem flatMap_linesOf_eq_self_iff (items : List Value) :
    items.flatMap linesOf = items ↔ ∀ v ∈ items, linesOf v = [v] := by
  induction items with
  | nil => simp
  | cons v rest ih =>
      rw [List.flatMap_cons, List.forall_mem_cons, ← ih]
      constructor
      · intro h
        obtain ⟨first, more, hlines⟩ := List.exists_cons_of_ne_nil (linesOf_ne_nil v)
        rw [hlines, List.cons_append] at h
        obtain ⟨rfl, hrest⟩ := List.cons.inj h
        -- one line is the text itself, and the others would make the rest too long
        have hlength := congrArg List.length hrest
        rw [List.length_append] at hlength
        have hle := length_le_length_flatMap_linesOf rest
        obtain rfl : more = [] := List.eq_nil_of_length_eq_zero (by omega)
        exact ⟨hlines, hrest⟩
      · rintro ⟨hv, hrest⟩
        rw [hv, hrest]
        rfl

theorem back_eq_self_iff {format : FileFormat} {data : Value} (h : format.Takes data) :
    format.back data = data ↔ format.Keeps data := by
  cases h with
  | text content => exact ⟨fun _ => .text content, fun _ => rfl⟩
  | lines texts =>
      have hlines : FileFormat.lines.back (.list (texts.map .string)) =
          .list (texts.map .string) ↔ ∀ line ∈ texts, Text.IsLine line := by
        unfold back
        rw [Value.list.injEq, flatMap_linesOf_eq_self_iff, List.forall_mem_map]
        exact forall₂_congr fun line _ => linesOf_string_eq_iff line
      rw [hlines]
      constructor
      · exact fun whole => .lines texts whole
      · intro h
        generalize hdata : Value.list (texts.map .string) = data at h
        cases h with
        | lines others whole =>
            have htexts := List.map_injective_iff.2 (fun _ _ => Value.string.inj)
              (Value.list.inj hdata)
            rwa [htexts]

theorem encodeLines_strings (texts : List String) :
    ∃ content, encodeLines (texts.map .string) = .ok content := by
  induction texts with
  | nil => exact ⟨"", rfl⟩
  | cons line rest ih =>
      obtain ⟨later, hlater⟩ := ih
      refine ⟨line ++ "\n" ++ later, ?_⟩
      rw [List.map_cons, encodeLines, hlater]

/-- The text of lines is taken apart into the lines of each. -/
theorem lines_of_encodeLines {items : List Value} {content : String}
    (h : encodeLines items = .ok content) :
    (∃ texts : List String, items = texts.map .string) ∧
      (Text.lines content).map Value.string = items.flatMap linesOf := by
  induction items generalizing content with
  | nil =>
      cases h
      exact ⟨⟨[], rfl⟩, rfl⟩
  | cons v rest ih =>
      cases v with
      | string line =>
          rw [encodeLines] at h
          cases hrest : encodeLines rest with
          | error e =>
              rw [hrest] at h
              cases h
          | ok later =>
              rw [hrest] at h
              cases h
              obtain ⟨⟨texts, rfl⟩, hlines⟩ := ih hrest
              refine ⟨⟨line :: texts, rfl⟩, ?_⟩
              rw [Text.lines_append_feed, List.map_append, hlines]
              rfl
      | _ => cases h

variable {format : FileFormat} (hformat : format = .text ∨ format = .lines)
include hformat

/-- Exactly the data that a format takes has a text, whatever sources are called. -/
theorem exists_encode_iff_takes (describe : Source → String) (data : Value) :
    (∃ content, format.encode describe data = .ok content) ↔ format.Takes data := by
  rcases hformat with rfl | rfl
  · constructor
    · rintro ⟨content, h⟩
      cases data with
      | string found => exact .text found
      | _ => cases h
    · rintro ⟨content⟩
      exact ⟨content, rfl⟩
  · constructor
    · rintro ⟨content, h⟩
      cases data with
      | list items =>
          obtain ⟨⟨texts, rfl⟩, -⟩ := lines_of_encodeLines h
          exact .lines texts
      | _ => cases h
    · rintro ⟨⟩
      exact encodeLines_strings _

theorem decode_encode_eq_back {describe : Source → String} {data : Value} {content : String}
    (h : format.encode describe data = .ok content) :
    format.decode content = .ok (format.back data) := by
  rcases hformat with rfl | rfl
  · exact decode_text_encode h
  · cases data with
    | list items =>
        have hlines := (lines_of_encodeLines h).2
        show Except.ok (Value.list _) = Except.ok (Value.list _)
        rw [hlines]
    | _ => cases h

end FileFormat

/-! ## A write and the reads after it -/

namespace Catalog

variable (datasets : Dict DatasetEntry) (initialised : Dict Value)

/-- The source of a dataset, as it is built in a world, is the file of a path in a format. -/
def SourceIsFile (c : Catalog (StateM World)) (name path : String) (format : FileFormat)
    (w : World) : Prop :=
  ∃ identity, ((c.source name).run.run w).1 = .ok ⟨identity, .file path format⟩

/-- A dataset whose source is a file in one world has this file for its source in every world. -/
theorem SourceIsFile.everywhere {name path : String} {format : FileFormat} {w : World}
    (h : (BuiltIn.catalog datasets initialised).SourceIsFile name path format w) (w' : World) :
    (BuiltIn.catalog datasets initialised).SourceIsFile name path format w' := by
  obtain ⟨identity, h⟩ := h
  -- whatever the worlds are, building does the same up to the identities that it gives out
  have alike : BuildsAlike (fun _ _ => True) fun _ _ => True :=
    ⟨fun _ => trivial, fun _ => trivial, fun _ _ _ _ _ _ _ => trivial⟩
  have hself := Value.entriesMatch_self (R := fun _ _ => True) initialised.entries
    fun _ _ => trivial
  obtain ⟨houtcome, -⟩ := couples_source alike datasets hself name w w' trivial
  rw [h] at houtcome
  unfold SourceIsFile
  generalize (((BuiltIn.catalog datasets initialised).source name).run.run w').1 = outcome
    at houtcome ⊢
  cases houtcome with
  | ok hmatch =>
      obtain ⟨identity', hsource, -⟩ := hmatch
      exact ⟨identity', congrArg Except.ok (Value.source.inj hsource)⟩

/-- A dataset whose source is a file is written by replacing this file. -/
theorem replaced_of_write {name path : String} {format : FileFormat} {data : Value} {w t : World}
    (hfile : (BuiltIn.catalog datasets initialised).SourceIsFile name path format w)
    (hwrite : ((BuiltIn.catalog datasets initialised).write name data).run.run w = (.ok (), t)) :
    ∃ content, format.encode t.memory.describe data = .ok content ∧
      w.files.Replaced path content t.files := by
  have hgrown := (growing_source datasets initialised name w).files
  obtain ⟨identity, hsource⟩ := hfile
  obtain ⟨source, middle, hbuilt, hstored⟩ := run_bind_eq_ok hwrite
  rw [hbuilt] at hsource hgrown
  obtain rfl := Except.ok.inj hsource
  have hwritten := run_adapt_eq_ok (ε := CallError) (g := CatalogError.sourceWrite name) hstored
  rcases FileSource.write_cases path format data middle with
    ⟨e, hfailed⟩ | ⟨content, files, hencode, hreplace, hdone⟩
  · cases hwritten.symm.trans hfailed
  · cases hwritten.symm.trans hdone
    have hreplaced := FileStore.replaced_of_replace hreplace
    rw [hgrown] at hreplaced
    exact ⟨content, hencode, hreplaced⟩

/-- Behind a validation without a failure, reading fetches the data of the source. -/
theorem run_read_of_passed {c : Catalog (StateM World)} {name : String} {report : ValidationReport}
    {w t : World} (h : (c.validate name).run.run w = (.ok report, t))
    (hpassed : report.passed = true) :
    ∃ source, ((c.source name).run.run w).1 = .ok source ∧
      (c.read name).run.run w = (ExceptT.adapt (CatalogError.sourceRead name)
        (DataSources.read source : ExceptT CallError (StateM World) Value)).run.run t := by
  rw [validate_eq_judged] at h
  obtain ⟨⟨source, report'⟩, middle, hjudged, hreport⟩ := run_bind_eq_ok h
  cases hreport
  refine ⟨source, ?_, ?_⟩
  · obtain ⟨entry, first, hfind, hrest⟩ := run_bind_eq_ok hjudged
    obtain ⟨built, second, hbuild, hjudge⟩ := run_bind_eq_ok hrest
    obtain ⟨judgement, third, -, hpair⟩ := run_bind_eq_ok hjudge
    cases hpair
    have hsource : (c.source name).run.run w = (.ok source, second) :=
      (run_bind_ok _ hfind).trans hbuild
    rw [hsource]
  · rw [read_eq_judged, run_bind_ok _ hjudged]
    unfold deliver
    rw [ValidationReport.result_of_all_pass (ValidationReport.passed_iff.1 hpassed)]

/-- What a dataset reads whose source is a file, behind a validation without a failure. -/
theorem read_file_of_passed {name path content : String} {format : FileFormat}
    {report : ValidationReport} {w : World}
    (hfile : (BuiltIn.catalog datasets initialised).SourceIsFile name path format w)
    (hreport : (((BuiltIn.catalog datasets initialised).validate name).run.run w).1 = .ok report)
    (hpassed : report.passed = true) (htext : w.files.readText path = some content) :
    (((BuiltIn.catalog datasets initialised).read name).run.run w).1 =
      (format.decode content).mapError (.sourceRead name) := by
  have hgrown := (growing_validate datasets initialised name w).files
  obtain ⟨identity, hsource⟩ := hfile
  rcases hvalidate : ((BuiltIn.catalog datasets initialised).validate name).run.run w with
    ⟨outcome, t⟩
  rw [hvalidate] at hreport hgrown
  obtain rfl : outcome = .ok report := hreport
  obtain ⟨source, hbuilt, hread⟩ := run_read_of_passed hvalidate hpassed
  rw [hsource] at hbuilt
  obtain rfl := Except.ok.inj hbuilt
  have hfetch : DataSources.read ⟨identity, .file path format⟩ =
      (FileSource.read path format : ExceptT CallError (StateM World) Value) := rfl
  rw [hread, run_adapt, hfetch, FileSource.run_read, hgrown, htext]

end Catalog

/-- Calls that write nothing leave the files as they are. -/
theorem Call.files_after (datasets : Dict DatasetEntry) (initialised : Dict Value)
    {calls : List Call} (h : ∀ call ∈ calls, ∀ name data, call ≠ .write name data) (w : World) :
    (after (BuiltIn.catalog datasets initialised) w calls).files = w.files := by
  induction calls generalizing w with
  | nil => rfl
  | cons call rest ih =>
      have hrest := ih fun other hmem => h other (List.mem_cons_of_mem _ hmem)
      have hcall := growing_perform datasets initialised (h call List.mem_cons_self) w
      exact (hrest _).trans hcall.files

/-- What is read from a file after data was written to it, by whichever dataset and whatever is done
in between but writing. -/
theorem Catalog.read_back_of_write (datasets : Dict DatasetEntry) (initialised : Dict Value)
    {format : FileFormat} (hformat : format = .text ∨ format = .lines) {data : Value}
    {name other path : String} {w t : World}
    (hname : (BuiltIn.catalog datasets initialised).SourceIsFile name path format w)
    (hother : (BuiltIn.catalog datasets initialised).SourceIsFile other path format w)
    (hwrite : ((BuiltIn.catalog datasets initialised).write name data).run.run w = (.ok (), t))
    {calls : List Call} (hcalls : ∀ call ∈ calls, ∀ name data, call ≠ .write name data)
    {report : ValidationReport}
    (hreport : (((BuiltIn.catalog datasets initialised).validate other).run.run
      (Call.after (BuiltIn.catalog datasets initialised) t calls)).1 = .ok report)
    (hpassed : report.passed = true) :
    (((BuiltIn.catalog datasets initialised).read other).run.run
      (Call.after (BuiltIn.catalog datasets initialised) t calls)).1 = .ok (format.back data) := by
  obtain ⟨content, hencode, hreplaced⟩ := replaced_of_write datasets initialised hname hwrite
  -- no call in between touches the file
  have htext : (Call.after (BuiltIn.catalog datasets initialised) t calls).files.readText path =
      some content := by
    rw [Call.files_after datasets initialised hcalls t]
    exact hreplaced.text
  have hfile := hother.everywhere datasets initialised
    (Call.after (BuiltIn.catalog datasets initialised) t calls)
  rw [read_file_of_passed datasets initialised hfile hreport hpassed htext,
    FileFormat.decode_encode_eq_back hformat hencode]
  rfl

/-- A text file gives back what was written to it, and so does a file of lines if every text is one
line; no other text comes back as it was written.  A format takes the data of its kind and no other,
and what it gives back is the same however the file is written and read: through one dataset or two,
with any calls in between that write nothing, as long as no validator of the dataset that is read
fails. -/
theorem Catalog.given_back (datasets : Dict DatasetEntry) (initialised : Dict Value)
    {format : FileFormat} (hformat : format = .text ∨ format = .lines) (data : Value) :
    let c := BuiltIn.catalog datasets initialised
    (∀ describe, (∃ content, format.encode describe data = .ok content) ↔ format.Takes data) ∧
    (format.Takes data → (format.back data = data ↔ format.Keeps data)) ∧
    (∀ describe content, format.encode describe data = .ok content →
      format.decode content = .ok (format.back data)) ∧
    ∀ (name other path : String) (w t : World),
      c.SourceIsFile name path format w → c.SourceIsFile other path format w →
      (c.write name data).run.run w = (.ok (), t) →
      ∀ calls : List Call, (∀ call ∈ calls, ∀ name data, call ≠ .write name data) →
        let u := Call.after c t calls
        ∀ report, ((c.validate other).run.run u).1 = .ok report → report.passed = true →
          ((c.read other).run.run u).1 = .ok (format.back data) := by
  intro c
  refine ⟨fun describe => FileFormat.exists_encode_iff_takes hformat describe data,
    FileFormat.back_eq_self_iff,
    fun _ _ hencode => FileFormat.decode_encode_eq_back hformat hencode, ?_⟩
  intro name other path w t hname hother hwrite calls hcalls u report hreport hpassed
  exact read_back_of_write datasets initialised hformat hname hother hwrite hcalls hreport hpassed

namespace Catalog

/-- A world with an empty directory to work in. -/
def archive : World := ⟨FileStore.workingIn [], Dict.empty, .empty⟩

/-- A log in a file of lines. -/
def logs : Dict DatasetEntry :=
  Dict.ofList [("log", ⟨⟨"talog.sources.File",
    [("format", .string "lines"), ("path", .string "log.txt")]⟩, []⟩)]

/-- Texts that are written to the log replace its file. -/
theorem write_log {data : Value} {content : String}
    (hencode : ∀ describe, FileFormat.lines.encode describe data = .ok content) :
    ((BuiltIn.catalog logs Dict.empty).write "log" data).run.run archive =
      (.ok (), ⟨archive.files.put ["log.txt"] (.file (.text content)), Dict.empty,
        MemoryStore.empty.advance⟩) := by
  have hsource : ((BuiltIn.catalog logs Dict.empty).source "log").run.run archive =
      (.ok ⟨0, .file "log.txt" .lines⟩,
        { archive with memory := MemoryStore.empty.advance }) := rfl
  have hstore : (store "log" data ⟨0, .file "log.txt" .lines⟩ :
      ExceptT CatalogError (StateM World) Unit) =
      ExceptT.adapt (.sourceWrite "log") (FileSource.write "log.txt" .lines data) := rfl
  have hreplace : archive.files.replace "log.txt" content =
      .ok (archive.files.put ["log.txt"] (.file (.text content))) := by
    unfold FileStore.replace
    rw [SystemText.directory_of_last_alone (by decide) (by decide) (by decide)]
    rfl
  refine (run_bind_ok _ hsource).trans ?_
  show (store "log" data ⟨0, .file "log.txt" .lines⟩ :
    ExceptT CatalogError (StateM World) Unit).run.run _ = _
  rw [hstore, run_adapt, FileSource.run_write, hencode]
  dsimp only
  rw [hreplace]
  rfl

/-- A log of whole lines, one of them empty, is read as it was written, and read again. -/
theorem given_back_log :
    let c := BuiltIn.catalog logs Dict.empty
    let log := Value.list [.string "begin", .string "", .string "end"]
    let written := (c.write "log" log).run.run archive
    written.1 = .ok () ∧ FileFormat.lines.Keeps log ∧
    ((c.read "log").run.run (Call.after c written.2 [.read "log"])).1 = .ok log := by
  intro c log written
  have hwritten : written = _ := write_log fun _ => rfl
  have hkeeps : FileFormat.lines.Keeps log := by
    refine .lines ["begin", "", "end"] fun line hmem => ?_
    simp only [List.mem_cons, List.not_mem_nil, or_false] at hmem
    rcases hmem with rfl | rfl | rfl <;> exact ⟨by decide, by decide⟩
  have hformat : FileFormat.lines = .text ∨ FileFormat.lines = .lines := .inr rfl
  obtain ⟨-, hback, -, hread⟩ := given_back logs Dict.empty hformat log
  rw [hwritten]
  refine ⟨rfl, hkeeps, ?_⟩
  have hlater := hread "log" "log" "log.txt" archive _ ⟨0, rfl⟩ ⟨0, rfl⟩ hwritten [.read "log"]
    (by simp) ⟨"log", []⟩ rfl rfl
  rw [hlater, (hback (.lines ["begin", "", "end"])).2 hkeeps]

/-- A text of two lines is taken for a file of lines, and comes back as two texts. -/
theorem given_back_torn :
    let c := BuiltIn.catalog logs Dict.empty
    let log := Value.list [.string "begin\nend"]
    let written := (c.write "log" log).run.run archive
    FileFormat.lines.Takes log ∧ written.1 = .ok () ∧
    ((c.validate "log").run.run written.2).1 = .ok ⟨"log", []⟩ ∧
    ((c.read "log").run.run written.2).1 = .ok (.list [.string "begin", .string "end"]) ∧
    ((c.read "log").run.run written.2).1 ≠ .ok log := by
  intro c log written
  have hwritten : written = _ := write_log fun _ => rfl
  have hread : ((c.read "log").run.run written.2).1 =
      .ok (.list [.string "begin", .string "end"]) := by
    rw [hwritten]
    have hformat : FileFormat.lines = .text ∨ FileFormat.lines = .lines := .inr rfl
    have hlog : c.SourceIsFile "log" "log.txt" .lines archive := ⟨0, rfl⟩
    have hvalid (t : World) : ((c.validate "log").run.run t).1 = .ok ⟨"log", []⟩ := rfl
    have hnone : ∀ call ∈ ([] : List Call), ∀ name data, call ≠ .write name data :=
      fun _ hmem => absurd hmem List.not_mem_nil
    refine (read_back_of_write logs Dict.empty hformat hlog hlog hwritten hnone (hvalid _)
      rfl).trans ?_
    simp [log, FileFormat.back, FileFormat.linesOf, Text.lines, Text.lineChars]
  refine ⟨.lines ["begin\nend"], by rw [hwritten], by rw [hwritten]; rfl, hread, ?_⟩
  rw [hread]
  simp [log]

end Catalog

end DataCatalog
