import SiteAudit.Proofs.References.Report
import SiteAudit.Proofs.Text.Leads

/-!
# What kind of file a path names

An audit asks for the kind of a file twice. The analyzer is chosen by the
extension in lower case; the references are read from the files whose paths end
with an extension letter by letter.

* `hasEnding_iff`: a path ends with one of some extensions when its extension is
  among them and is written in lower case.
* `analyzerFor_iff`: the analyzers share no extension, so the one that supports a
  path is chosen.
* `hasEnding_iff_analyzerFor`: an ending of an analyzer names the files in lower
  case among those that it is chosen for.
* `kinds_agree_iff_lower_case`: so the two agree on the paths whose extension is
  written in lower case, and a stylesheet or page with any other spelling is
  analyzed and yet left out of the references.
-/
namespace SiteAudit

/-! ## Endings -/

theorem fromLast_append {c : Char} {t : List Char} (h : c ∉ t) (before : List Char) :
    fromLast c (before ++ c :: t) = c :: t := by
  have hrun : ∀ d ∈ t.reverse, (d != c) = true := by
    intro d hd
    simp only [bne_iff_ne, ne_eq]
    rintro rfl
    exact h (List.mem_reverse.mp hd)
  simp [fromLast, List.takeWhile_append_of_pos hrun]

theorem fromLast_eq_iff {c : Char} {t : List Char} (h : c ∉ t) {s : List Char} :
    fromLast c s = c :: t ↔ c :: t <:+ s := by
  constructor
  · intro hlast
    by_cases hc : c ∈ s
    · obtain ⟨tail, before, hs, htail⟩ := List.eq_append_cons_of_mem (List.mem_reverse.mpr hc)
      have hs' : s = before.reverse ++ c :: tail.reverse := by
        rw [← List.reverse_reverse s, hs]
        simp
      rw [hs', fromLast_append (by simpa using htail)] at hlast
      rw [hs', ← hlast]
      exact List.suffix_append ..
    · simp [fromLast, hc] at hlast
  · rintro ⟨before, rfl⟩
    exact fromLast_append h before

/-- The extension as the path spells it. -/
def writtenExtension (path : String) : String := String.ofList (fromLast '.' path.toList)

theorem extension_eq (path : String) :
    extension path = Text.lowerString (writtenExtension path) := by
  simp [extension, writtenExtension, Text.lowerString]

/-- One dot in front, and no capital letters. -/
structure PlainExtension (e : String) : Prop where
  dot : ∃ t, e.toList = '.' :: t ∧ '.' ∉ t
  lower : Text.lowerString e = e

theorem PlainExtension.endsWith_iff {e : String} (h : PlainExtension e) (path : String) :
    Text.endsWith e.toList path.toList = true ↔ writtenExtension path = e := by
  obtain ⟨t, he, ht⟩ := h.dot
  rw [Text.endsWith_iff, he, ← fromLast_eq_iff ht, ← he, writtenExtension,
    ← String.toList_inj, String.toList_ofList]

/-- **Endings.** A path ends with one of some extensions when its extension is
among them and is written in lower case. -/
theorem hasEnding_iff {extensions : List String} (h : ∀ e ∈ extensions, PlainExtension e)
    (path : String) :
    hasEnding extensions path = true ↔
      extension path ∈ extensions ∧ extension path = writtenExtension path := by
  rw [hasEnding, List.any_eq_true]
  constructor
  · rintro ⟨e, he, hend⟩
    obtain rfl := ((h e he).endsWith_iff path).mp hend
    have hlower : extension path = writtenExtension path := by
      rw [extension_eq, (h _ he).lower]
    exact ⟨hlower ▸ he, hlower⟩
  · rintro ⟨hmem, hlower⟩
    exact ⟨_, hmem, ((h _ hmem).endsWith_iff path).mpr hlower.symm⟩

/-! ## The choice of an analyzer -/

/-- Analyzers that share no extension. -/
def Apart (as : List Analyzer) : Prop :=
  as.Pairwise fun a b => ∀ e ∈ a.extensions, e ∉ b.extensions

theorem find?_supports_iff {as : List Analyzer} (h : Apart as) {a : Analyzer} (ha : a ∈ as)
    (path : String) :
    as.find? (·.supports path) = some a ↔ a.supports path = true := by
  refine ⟨List.find?_some, fun hsupports => ?_⟩
  obtain ⟨before, after, rfl⟩ := List.append_of_mem ha
  refine List.find?_eq_some_iff_append.mpr ⟨hsupports, before, after, rfl, fun b hb => ?_⟩
  have hext : extension path ∉ b.extensions := fun hmem =>
    (List.pairwise_append.mp h).2.2 b hb a (List.mem_cons_self ..) _ hmem
      (by simpa [Analyzer.supports] using hsupports)
  simpa [Analyzer.supports] using hext

theorem analyzersOver_apart (parse : Script.Parse) : Apart (analyzersOver parse) := by
  simp [Apart, analyzersOver, scriptAnalyzer, markupAnalyzer, stylesheetAnalyzer]

theorem analyzerFor_iff (parse : Script.Parse) (ignore : List Pattern.Compiled) {a : Analyzer}
    (ha : a ∈ analyzersOver parse) (path : String) :
    (Audit.over parse ignore).analyzerFor path = some a ↔ extension path ∈ a.extensions := by
  rw [Audit.analyzerFor, Audit.over, find?_supports_iff (analyzersOver_apart parse) ha]
  simp [Analyzer.supports]

theorem plainExtension_of_mem {parse : Script.Parse} {a : Analyzer} (ha : a ∈ analyzersOver parse)
    {e : String} (he : e ∈ a.extensions) : PlainExtension e := by
  have hall : e ∈ (analyzersOver parse).flatMap (·.extensions) := List.mem_flatMap.mpr ⟨a, ha, he⟩
  have hlist : (analyzersOver parse).flatMap (·.extensions) =
      [".js", ".mjs", ".html", ".htm", ".css"] := rfl
  simp only [hlist, List.mem_cons, List.not_mem_nil, or_false] at hall
  rcases hall with rfl | rfl | rfl | rfl | rfl <;> exact ⟨⟨_, rfl, by decide⟩, by decide⟩

/-- The files whose paths end with an extension of an analyzer go to it, and of
those that go to it they are the ones in lower case. -/
theorem hasEnding_iff_analyzerFor (parse : Script.Parse) (ignore : List Pattern.Compiled)
    {a : Analyzer} (ha : a ∈ analyzersOver parse) (path : String) :
    hasEnding a.extensions path = true ↔
      (Audit.over parse ignore).analyzerFor path = some a ∧
        extension path = writtenExtension path := by
  rw [analyzerFor_iff parse ignore ha]
  exact hasEnding_iff (fun e he => plainExtension_of_mem ha he) path

namespace References

open Markup Stylesheet

/-! ## A file in a batch -/

theorem defines_of_mem {files : List SourceFile} {file : SourceFile} (hfile : file ∈ files)
    {kind : SelectorKind} {name : String} (h : defines (ownDefinitions file) kind name = true) :
    defines (definitions files) kind name = true := by
  rw [defines_definitions]
  exact List.any_eq_true.mpr ⟨file, hfile, h⟩

theorem ownDefinitions_markup {file : SourceFile} (h : isMarkup file.path = true) :
    ownDefinitions file = Definitions.addMarkup {} file.content.toList := by
  have hs : ¬isSheet file.path = true := fun hs => by
    simp [isMarkup_of_isSheet hs] at h
  simp [ownDefinitions, addFile, h, hs]

theorem usageIssue_mem_issues (ignore : List Pattern.Compiled) (read : Read)
    {files : List SourceFile} {file : SourceFile} (hfile : file ∈ files)
    (hm : isMarkup file.path = true) {u : Usage} (hu : u ∈ usages file.path (read file))
    (h : isUndefined (definitions files) ignore u = true) :
    usageIssue u ∈ issues ignore read files := by
  refine List.mem_map_of_mem (List.mem_filter.mpr ⟨?_, h⟩)
  exact List.mem_flatMap.mpr ⟨file, List.mem_filter.mpr ⟨hfile, hm⟩, hu⟩

theorem issues_unread (ignore : List Pattern.Compiled) (read : Read)
    (before after : List SourceFile) {file : SourceFile} (hs : isSheet file.path = false)
    (hm : isMarkup file.path = false) :
    issues ignore read (before ++ file :: after) = issues ignore read (before ++ after) := by
  simp [issues, definitions, allUsages, addFile, hs, hm]

/-- **Two readings of an extension.** The choice of an analyzer and the check of
references agree on the kind of a file exactly when a stylesheet or page has its
extension written in lower case. Then what a stylesheet or a style block defines
counts, and every undefined name that a page uses is reported; with any other
spelling the check reports what it would report without the file. -/
theorem kinds_agree_iff_lower_case (parse : Script.Parse) (ignore : List Pattern.Compiled)
    (read : Read) (before after : List SourceFile) (file : SourceFile) :
    let picked := (Audit.over parse ignore).analyzerFor file.path
    let files := before ++ file :: after
    (((isSheet file.path = true ↔ picked = some stylesheetAnalyzer) ∧
        (isMarkup file.path = true ↔ picked = some markupAnalyzer)) ↔
      (picked = some stylesheetAnalyzer ∨ picked = some markupAnalyzer →
        extension file.path = writtenExtension file.path)) ∧
    (extension file.path = writtenExtension file.path →
      (picked = some stylesheetAnalyzer → ∀ kind name,
        defines (Definitions.addSheet {} file.content.toList) kind name = true →
          defines (definitions files) kind name = true) ∧
      (picked = some markupAnalyzer →
        (∀ kind name, defines (Definitions.addMarkup {} file.content.toList) kind name = true →
          defines (definitions files) kind name = true) ∧
        ∀ u ∈ usages file.path (read file), isUndefined (definitions files) ignore u = true →
          usageIssue u ∈ issues ignore read files)) ∧
    (extension file.path ≠ writtenExtension file.path →
      issues ignore read files = issues ignore read (before ++ after)) := by
  intro picked files
  have hsheet : isSheet file.path = true ↔ picked = some stylesheetAnalyzer ∧
      extension file.path = writtenExtension file.path :=
    hasEnding_iff_analyzerFor parse ignore (a := stylesheetAnalyzer) (by simp [analyzersOver]) _
  have hmarkup : isMarkup file.path = true ↔ picked = some markupAnalyzer ∧
      extension file.path = writtenExtension file.path :=
    hasEnding_iff_analyzerFor parse ignore (a := markupAnalyzer) (by simp [analyzersOver]) _
  have hfile : file ∈ files := by simp [files]
  refine ⟨?_, fun hlower => ⟨fun hp kind name h => ?_, fun hp => ⟨fun kind name h => ?_, ?_⟩⟩, ?_⟩
  · rw [hsheet, hmarkup, and_iff_left_iff_imp, and_iff_left_iff_imp, or_imp]
  · refine defines_of_mem hfile ?_
    rw [ownDefinitions_sheet (hsheet.mpr ⟨hp, hlower⟩)]
    exact h
  · refine defines_of_mem hfile ?_
    rw [ownDefinitions_markup (hmarkup.mpr ⟨hp, hlower⟩)]
    exact h
  · exact fun u hu => usageIssue_mem_issues ignore read hfile (hmarkup.mpr ⟨hp, hlower⟩) hu
  · intro hne
    refine issues_unread ignore read before after ?_ ?_
    · exact Bool.eq_false_iff.mpr fun hs => hne (hsheet.mp hs).2
    · exact Bool.eq_false_iff.mpr fun hm => hne (hmarkup.mp hm).2

/-- A stylesheet in capitals is analyzed, and its classes are reported as defined
nowhere; a page in capitals is analyzed, and its references are not checked. -/
theorem capitals_unread :
    let sheet : SourceFile := { path := "THEME.CSS", content := ".a \x7b\x7d" }
    let page : SourceFile := { path := "p.html", content := "<p class=\"a\"></p>" }
    Audit.default.analyzerFor sheet.path = some stylesheetAnalyzer ∧
      isSheet sheet.path = false ∧
      (check [] readingOf [sheet, page]).issues.map (·.message) =
        ["CSS class \"a\" is used but not defined in any CSS file"] ∧
      Audit.default.analyzerFor "P.HTML" = some markupAnalyzer ∧
      isMarkup "P.HTML" = false := by
  intro sheet page
  refine ⟨?_, by decide, by decide +kernel, ?_, by decide⟩
  · exact (analyzerFor_iff Script.parse [] (by simp [analyzersOver]) _).mpr (by decide)
  · exact (analyzerFor_iff Script.parse [] (by simp [analyzersOver]) _).mpr (by decide)

end References

end SiteAudit
