import SiteAudit.Proofs.Batch.Kinds
import SiteAudit.Proofs.Batch.Merging
import SiteAudit.Proofs.Markup.UsageLines
import SiteAudit.Proofs.Stylesheet.WholeText

/-!
# The taxonomy of issues

Each of the four built-in checks has a family of rules of its own, with one
severity and one source. `Family.Holds` says that an issue is one of a family
and has its place in a given file.

* `script_holds`, `markup_holds`, `sheet_holds`, `reference_holds`: what each
  check reports, whatever it is given. The check of scripts is over any outcome
  of the parser, that of markup over any reading of the document.
* `fileIssues_cases`: no analyzer fails, so the issues of a file are those of
  the check for its extension.
* `issues_in_taxonomy`: hence every issue of the whole audit is in the taxonomy.
-/
namespace SiteAudit

/-- The rules of one check, with what their issues have in common. -/
structure Family where
  rules : List String
  severity : Severity
  source : String
  /-- Whether its issues name a line and no column. -/
  wholeLines : Bool
  deriving DecidableEq, Repr

/-- An issue of a family in the file with the given path. -/
structure Family.Holds (f : Family) (path : String) (i : Issue) : Prop where
  rule : i.rule ∈ f.rules
  severity : i.severity = f.severity
  source : i.source = f.source
  column : f.wholeLines = true → i.column = 0
  path : i.path = path
  line : 1 ≤ i.line

def scriptFamily : Family where
  rules := ["script-syntax-error", "script-parse-error"]
  severity := .error
  source := "tree-sitter"
  wholeLines := false

def markupFamily : Family where
  rules := ["tag-unexpected-close", "tag-mismatch", "tag-unclosed", "markup-parse-error"]
  severity := .error
  source := "html-parser"
  wholeLines := true

def sheetFamily : Family where
  rules := ["unbalanced-brace-unexpected", "unbalanced-brace-unclosed", "comment-unclosed",
    "string-unclosed"]
  severity := .error
  source := "stylesheet-analyzer"
  wholeLines := false

def referenceFamily : Family where
  rules := ["class-undefined", "id-undefined"]
  severity := .warning
  source := "html-css-validator"
  wholeLines := true

/-! ## Scripts -/

theorem script_holds (file : SourceFile) (parsed : Except Failure Script.SyntaxNode) :
    (∀ i ∈ Script.issuesOf file parsed, scriptFamily.Holds file.path i) ∧
      (Script.issuesOf file parsed).length ≤ 1 := by
  have hone : ∀ rule message line column, rule ∈ scriptFamily.rules → 1 ≤ line →
      (∀ i ∈ [Script.issueAt file rule message line column], scriptFamily.Holds file.path i) ∧
        [Script.issueAt file rule message line column].length ≤ 1 := by
    intro rule message line column hrule hline
    refine ⟨fun i hi => ?_, Nat.le_refl 1⟩
    obtain rfl := List.mem_singleton.mp hi
    exact ⟨hrule, rfl, rfl, by simp [scriptFamily], rfl, hline⟩
  have hsyntax : Rule.scriptSyntaxError ∈ scriptFamily.rules := by decide
  cases parsed with
  | error failure => exact hone _ _ _ _ (by decide) (Nat.le_refl 1)
  | ok root =>
    unfold Script.issuesOf
    dsimp only
    split
    · exact ⟨by simp, Nat.zero_le 1⟩
    · split
      · exact hone _ _ _ _ hsyntax (Nat.le_refl 1)
      · rename_i n _
        have hplace : 1 ≤ (Script.place n.row n.column file.content.toList).1 := by
          unfold Script.place
          split <;> exact Nat.le_add_left 1 n.row
        exact hone _ _ _ _ hsyntax hplace

/-! ## Markup -/

namespace Markup

open Tag

theorem Nest.line_after (n : Nest) (e : Event) : n.line ≤ (n.after e).line := by
  have h := Nest.line_run n [e]
  simp only [Nest.run] at h
  omega

theorem le_line_of_mem_strays {n : Nest} {es : List Event} {x : Stray × Nat}
    (h : x ∈ n.strays es) : n.line ≤ x.2 := by
  induction es generalizing n with
  | nil => cases h
  | cons e more ih =>
    rcases List.mem_append.mp h with h | h
    · obtain ⟨stray, -, rfl⟩ := by simpa using h
      exact Nat.le_refl _
    · exact Nat.le_trans (n.line_after e) (ih h)

/-- A frame is there from the start or has a line that was reached since. -/
theorem Nest.frame_after {n : Nest} {e : Event} {f : Frame} (h : f ∈ (n.after e).frames) :
    f ∈ n.frames ∨ f.line = n.line := by
  cases e with
  | opened name attributes =>
    unfold Nest.after at h
    dsimp only at h
    split at h
    · exact Or.inl h
    · rcases List.mem_cons.mp h with rfl | h
      · exact Or.inr rfl
      · exact Or.inl h
  | closed name =>
    unfold Nest.after at h
    dsimp only at h
    split at h
    · exact Or.inl h
    · split at h
      · exact Or.inl h
      · rename_i top rest hframes
        split at h
        · exact Or.inl (hframes ▸ List.mem_cons_of_mem top h)
        · exact Or.inl h
  | text data => exact Or.inl h

theorem le_line_of_mem_frames {n : Nest} {es : List Event} {start : Nat} (hstart : start ≤ n.line)
    (hframes : ∀ f ∈ n.frames, start ≤ f.line) {f : Frame} (h : f ∈ (n.run es).frames) :
    start ≤ f.line := by
  induction es generalizing n with
  | nil => exact hframes f h
  | cons e more ih =>
    refine ih (Nat.le_trans hstart (n.line_after e)) (fun g hg => ?_) h
    rcases Nest.frame_after hg with hg | hg
    · exact hframes g hg
    · exact hg ▸ hstart

theorem markup_holds (path : String) (reading : Reading) {i : Issue}
    (h : i ∈ issues path reading) : markupFamily.Holds path i := by
  have hone : ∀ rule message line, rule ∈ markupFamily.rules → 1 ≤ line →
      markupFamily.Holds path (issueAt path rule message line) :=
    fun rule message line hrule hline => ⟨hrule, rfl, rfl, fun _ => rfl, rfl, hline⟩
  rcases List.mem_append.mp h with h | h
  · rcases List.mem_append.mp h with h | h
    · obtain ⟨⟨stray, line⟩, hx, rfl⟩ := List.mem_map.mp h
      have hline : 1 ≤ line := le_line_of_mem_strays hx
      cases stray with
      | unexpected name => exact hone _ _ _ (by decide) hline
      | mismatched expected name => exact hone _ _ _ (by decide) hline
    · obtain ⟨failure, -, rfl⟩ := by simpa using h
      refine hone _ _ _ (by decide) ?_
      rw [Nest.line_run]
      exact Nat.le_add_right 1 _
  · obtain ⟨f, hf, rfl⟩ := List.mem_map.mp h
    refine hone _ _ _ (by decide) ?_
    exact le_line_of_mem_frames (Nat.le_refl 1) (by simp) (List.mem_reverse.mp hf)

theorem path_of_mem_tagUsages {path : String} {line : Nat} {attributes : List (String × String)}
    {u : Usage} (h : u ∈ tagUsages path line attributes) : u.path = path := by
  unfold tagUsages at h
  rcases List.mem_append.mp h with h | h
  · split at h
    · obtain ⟨w, -, rfl⟩ := List.mem_map.mp h
      rfl
    · cases h
  · split at h
    · split at h
      · cases h
      · obtain rfl := List.mem_singleton.mp h
        rfl
    · cases h

theorem path_of_mem_usagesFrom {path : String} {line : Nat} {es : List Event} {u : Usage}
    (h : u ∈ usagesFrom path line es) : u.path = path := by
  induction es generalizing line with
  | nil => cases h
  | cons e more ih =>
    cases e with
    | opened name attributes =>
      rcases List.mem_append.mp h with h | h
      · exact path_of_mem_tagUsages h
      · exact ih h
    | closed name => exact ih h
    | text data => exact ih h

end Markup

/-! ## Stylesheets -/

theorem sheet_holds (file : SourceFile) {i : Issue} (h : i ∈ Stylesheet.issues file) :
    sheetFamily.Holds file.path i := by
  have hone : ∀ rule message line column, rule ∈ sheetFamily.rules → 1 ≤ line →
      sheetFamily.Holds file.path (Stylesheet.issueAt file rule message line column) :=
    fun rule message line column hrule hline =>
      ⟨hrule, rfl, rfl, by simp [sheetFamily], rfl, hline⟩
  have hlast : 1 ≤ (Text.splitOn '\n' file.content.toList).length := by
    rw [Text.length_splitOn]
    exact Nat.le_add_right 1 _
  rcases List.mem_append.mp h with h | h
  · obtain ⟨p, hp, rfl⟩ := List.mem_map.mp h
    refine hone _ _ _ _ (by decide) ?_
    -- in one pass over the text, a line is one more than the line feeds before
    rw [Stylesheet.scanLines_eq_resume] at hp
    have hpass := Stylesheet.resumeAt_eq_pass [] {} file.content.toList ⟨Int.le_refl 0, by simp⟩
    change Stylesheet.resume 1 0 {} file.content.toList = _ at hpass
    rw [hpass] at hp
    obtain ⟨k, -, rfl⟩ := List.mem_map.mp hp
    exact Nat.le_add_right 1 _
  · unfold Stylesheet.endIssues at h
    rcases List.mem_append.mp h with h | h
    · split at h
      · obtain rfl := List.mem_singleton.mp h
        exact hone _ _ _ _ (by decide) hlast
      · cases h
    · split at h
      · cases h
      · obtain rfl := List.mem_singleton.mp h
        exact hone _ _ _ _ (by decide) hlast
      · obtain rfl := List.mem_singleton.mp h
        exact hone _ _ _ _ (by decide) hlast

/-! ## References -/

theorem reference_holds (ignore : List Pattern.Compiled) (read : References.Read)
    (files : List SourceFile) {i : Issue} (h : i ∈ References.issues ignore read files) :
    ∃ file ∈ files, References.isMarkup file.path = true ∧
      referenceFamily.Holds file.path i := by
  obtain ⟨u, hu, rfl⟩ := List.mem_map.mp h
  obtain ⟨file, hfile, husage⟩ := List.mem_flatMap.mp (List.mem_filter.mp hu).1
  obtain ⟨hmem, hmarkup⟩ := List.mem_filter.mp hfile
  refine ⟨file, hmem, hmarkup, ?_⟩
  have hpath : u.path = file.path := Markup.path_of_mem_usagesFrom husage
  have hline : 1 ≤ u.line := Markup.le_line_of_mem_usagesFrom husage
  cases hkind : u.kind <;>
    exact ⟨by simp [References.usageIssue, hkind, referenceFamily, Rule.classUndefined,
      Rule.idUndefined], rfl, rfl, fun _ => rfl, hpath, hline⟩

/-! ## The whole audit -/

/-- The issues of a file are those of the check for its extension; a file with
another extension has none. No check fails. -/
theorem fileIssues_cases (parse : Script.Parse) (ignore : List Pattern.Compiled)
    (file : SourceFile) :
    (extension file.path ∈ [".js", ".mjs"] ∧ (Audit.over parse ignore).fileIssues file =
        Script.issuesOf file (parse file.content)) ∨
      (extension file.path ∈ [".html", ".htm"] ∧ (Audit.over parse ignore).fileIssues file =
        Markup.issues file.path (.ofText file.content)) ∨
      (extension file.path = ".css" ∧ (Audit.over parse ignore).fileIssues file =
        Stylesheet.issues file) ∨
      (Audit.over parse ignore).fileIssues file = [] := by
  unfold Audit.fileIssues
  cases hfor : (Audit.over parse ignore).analyzerFor file.path with
  | none => exact .inr (.inr (.inr rfl))
  | some a =>
    have ha : a ∈ analyzersOver parse := List.mem_of_find?_eq_some hfor
    have hext : extension file.path ∈ a.extensions := (analyzerFor_iff parse ignore ha _).mp hfor
    simp only [analyzersOver, List.mem_cons, List.not_mem_nil, or_false] at ha
    rcases ha with rfl | rfl | rfl
    · exact .inl ⟨hext, rfl⟩
    · exact .inr (.inl ⟨hext, rfl⟩)
    · exact .inr (.inr (.inl ⟨by simpa [stylesheetAnalyzer] using hext, rfl⟩))

theorem countP_blocks_le {block : SourceFile → List Issue} {p : Issue → Bool}
    {q : SourceFile → Bool} (h : ∀ file, (block file).countP p ≤ if q file then 1 else 0)
    (files : List SourceFile) : (files.flatMap block).countP p ≤ files.countP q := by
  induction files with
  | nil => simp
  | cons file more ih =>
    have hfile := h file
    rw [List.flatMap_cons, List.countP_append, List.countP_cons]
    omega

theorem countP_source {found : List Issue} {source path : String}
    (h : ∀ i ∈ found, i.source ≠ source) :
    found.countP (fun i => i.source == source && i.path == path) = 0 := by
  refine List.countP_eq_zero.mpr fun i hi => ?_
  simp [h i hi]

theorem fileIssues_script_le (parse : Script.Parse) (ignore : List Pattern.Compiled)
    (path : String) (file : SourceFile) :
    ((Audit.over parse ignore).fileIssues file).countP
        (fun i => i.source == "tree-sitter" && i.path == path) ≤
      if (file.path == path && [".js", ".mjs"].contains (extension file.path)) then 1 else 0 := by
  rcases fileIssues_cases parse ignore file with ⟨hext, h⟩ | ⟨-, h⟩ | ⟨-, h⟩ | h
  · obtain ⟨hholds, hlength⟩ := script_holds file (parse file.content)
    rw [h]
    by_cases hpath : file.path = path
    · have hcount : (file.path == path && [".js", ".mjs"].contains (extension file.path)) =
          true := by simpa [hpath] using hext
      rw [if_pos hcount]
      exact Nat.le_trans List.countP_le_length hlength
    · refine Nat.le_trans (Nat.le_of_eq (List.countP_eq_zero.mpr fun i hi => ?_)) (Nat.zero_le _)
      simp [(hholds i hi).path, hpath]
  · rw [h, countP_source fun i hi => ?_]
    · exact Nat.zero_le _
    · rw [(Markup.markup_holds _ _ hi).source]
      decide
  · rw [h, countP_source fun i hi => ?_]
    · exact Nat.zero_le _
    · rw [(sheet_holds _ hi).source]
      decide
  · simp [h]

theorem isMarkup_iff (path : String) :
    References.isMarkup path = true ↔
      ".html".toList <:+ path.toList ∨ ".htm".toList <:+ path.toList := by
  simp only [References.isMarkup, hasEnding, List.any_cons, List.any_nil, Bool.or_false,
    Bool.or_eq_true, Text.endsWith_iff]

theorem issues_over (parse : Script.Parse) (ignore : List Pattern.Compiled)
    (files : List SourceFile) :
    (Audit.over parse ignore).issues files =
      files.flatMap (Audit.over parse ignore).fileIssues ++
        References.issues ignore References.readingOf files := by
  simp [Audit.issues, Audit.over, Audit.batchIssues, Audit.contributed, referenceValidator,
    References.check, Findings.ofIssues]

/-- **Every issue is in the taxonomy.** Whatever the parser of scripts answers,
an issue of the audit with all built-in components has the path of a file of the
batch, a line from 1 on, and a rule of one of four families with the severity and
the source of that family: stylesheets by extension, markup by extension and
without a column, scripts by extension, and references on paths with an ending of
markup. So no component fails and nothing is a mere remark. The scripts with a
path have at most one issue each. -/
theorem issues_in_taxonomy (parse : Script.Parse) (ignore : List Pattern.Compiled)
    (files : List SourceFile) :
    let found := ((Audit.over parse ignore).respond files).lint.issues
    (∀ i ∈ found, ∃ file ∈ files,
      (extension file.path = ".css" ∧ sheetFamily.Holds file.path i) ∨
      (extension file.path ∈ [".html", ".htm"] ∧ markupFamily.Holds file.path i) ∨
      (extension file.path ∈ [".js", ".mjs"] ∧ scriptFamily.Holds file.path i) ∨
      ((".html".toList <:+ file.path.toList ∨ ".htm".toList <:+ file.path.toList) ∧
        referenceFamily.Holds file.path i)) ∧
    (∀ i ∈ found, i.rule ≠ "analyzer-internal-error" ∧ i.severity ≠ .info) ∧
    (∀ path, found.countP (fun i => i.source == "tree-sitter" && i.path == path) ≤
      files.countP (fun f => f.path == path && [".js", ".mjs"].contains (extension f.path))) := by
  intro found
  have hfound : found = files.flatMap (Audit.over parse ignore).fileIssues ++
      References.issues ignore References.readingOf files := issues_over parse ignore files
  have hfamilies : ∀ i ∈ found, ∃ file ∈ files,
      (extension file.path = ".css" ∧ sheetFamily.Holds file.path i) ∨
      (extension file.path ∈ [".html", ".htm"] ∧ markupFamily.Holds file.path i) ∨
      (extension file.path ∈ [".js", ".mjs"] ∧ scriptFamily.Holds file.path i) ∨
      ((".html".toList <:+ file.path.toList ∨ ".htm".toList <:+ file.path.toList) ∧
        referenceFamily.Holds file.path i) := by
    intro i hi
    rw [hfound] at hi
    rcases List.mem_append.mp hi with hi | hi
    · obtain ⟨file, hfile, hi⟩ := List.mem_flatMap.mp hi
      refine ⟨file, hfile, ?_⟩
      rcases fileIssues_cases parse ignore file with ⟨hext, h⟩ | ⟨hext, h⟩ | ⟨hext, h⟩ | h
      · exact .inr (.inr (.inl ⟨hext, (script_holds file _).1 i (h ▸ hi)⟩))
      · exact .inr (.inl ⟨hext, Markup.markup_holds _ _ (h ▸ hi)⟩)
      · exact .inl ⟨hext, sheet_holds file (h ▸ hi)⟩
      · simp [h] at hi
    · obtain ⟨file, hfile, hmarkup, hholds⟩ := reference_holds ignore _ files hi
      exact ⟨file, hfile, .inr (.inr (.inr ⟨(isMarkup_iff file.path).mp hmarkup, hholds⟩))⟩
  refine ⟨hfamilies, fun i hi => ?_, fun path => ?_⟩
  · have hno : ∀ (f : Family) (path : String), "analyzer-internal-error" ∉ f.rules →
        f.severity ≠ .info → f.Holds path i →
        i.rule ≠ "analyzer-internal-error" ∧ i.severity ≠ .info :=
      fun f path hrule hinfo h => ⟨fun he => hrule (he ▸ h.rule), h.severity ▸ hinfo⟩
    obtain ⟨file, -, ⟨-, h⟩ | ⟨-, h⟩ | ⟨-, h⟩ | ⟨-, h⟩⟩ := hfamilies i hi <;>
      exact hno _ _ (by decide) (by decide) h
  · have hreferences : (References.issues ignore References.readingOf files).countP
        (fun i => i.source == "tree-sitter" && i.path == path) = 0 := by
      refine countP_source fun i hi => ?_
      obtain ⟨file, -, -, h⟩ := reference_holds ignore _ files hi
      rw [h.source]
      decide
    rw [hfound, List.countP_append, hreferences]
    exact countP_blocks_le (fileIssues_script_le parse ignore path) files

end SiteAudit
