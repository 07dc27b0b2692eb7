import SiteAudit.Batch

/-!
# What a batch defines and what it is told is missing

The definitions of a batch are gathered file by file into two growing lists of
names. What a name is worth does not depend on that: a name is defined if some
file of the batch, taken alone, defines it (`defines_definitions`). So the
report is made of one block per markup file (`issues_eq_fileReports`), and a
block sees the batch only as a set of files.

From there two runs can be compared: with a stylesheet more, or with more
patterns to ignore, the report loses exactly the issues that the addition
settles (`report_loses_what_is_settled`). Issues are plain records;
`reportedName` reads the name of an issue back from its message.
-/
namespace SiteAudit.References

open Markup Stylesheet

/-! ## Definitions as sets of names -/

/-- Whether a name is defined as a class or as an id. -/
def defines (d : Definitions) : SelectorKind → String → Bool
  | .cls, name => d.classes.contains name
  | .id, name => d.ids.contains name

theorem contains_insertNames (names found : List String) (name : String) :
    (names.foldl insertName found).contains name =
      (found.contains name || names.contains name) := by
  induction names generalizing found with
  | nil => simp
  | cons n more ih =>
    rw [List.foldl_cons, ih, insertName]
    split
    · rename_i hn
      by_cases h : name = n
      · subst h
        simp_all
      · simp [h]
    · simp [Bool.or_assoc]

/-- Adding the definitions of something has the same effect on the names
whatever is defined already. -/
def Additive {α : Type} (add : Definitions → α → Definitions) : Prop :=
  ∀ d x kind name,
    defines (add d x) kind name = (defines d kind name || defines (add {} x) kind name)

theorem Additive.foldl {α : Type} {add : Definitions → α → Definitions} (h : Additive add)
    (xs : List α) (d : Definitions) (kind : SelectorKind) (name : String) :
    defines (xs.foldl add d) kind name =
      (defines d kind name || xs.any (fun x => defines (add {} x) kind name)) := by
  induction xs generalizing d with
  | nil => simp
  | cons x more ih => rw [List.foldl_cons, ih, h, List.any_cons, Bool.or_assoc]

theorem defines_empty (kind : SelectorKind) (name : String) : defines {} kind name = false := by
  cases kind <;> rfl

theorem additive_addSheet : Additive Definitions.addSheet := by
  intro d sheet kind name
  cases kind <;> simp only [defines, Definitions.addSheet, contains_insertNames] <;> simp

theorem additive_addMarkup : Additive Definitions.addMarkup := by
  intro d markup kind name
  simp only [Definitions.addMarkup, additive_addSheet.foldl, defines_empty, Bool.false_or]

theorem additive_addFile : Additive addFile := by
  intro d file kind name
  unfold addFile
  by_cases hs : isSheet file.path = true <;> by_cases hm : isMarkup file.path = true
  · simp only [hs, hm, if_true]
    rw [additive_addMarkup (d.addSheet _), additive_addMarkup (Definitions.addSheet {} _),
      additive_addSheet d, Bool.or_assoc]
  · simp only [hs, hm, if_true]
    exact additive_addSheet ..
  · simp only [hs, hm, if_true]
    exact additive_addMarkup ..
  · simp [hs, hm, defines_empty]

/-- What a file by itself defines. -/
def ownDefinitions (file : SourceFile) : Definitions := addFile {} file

/-- A batch defines what some file of it defines by itself, wherever it stands. -/
theorem defines_definitions (files : List SourceFile) (kind : SelectorKind) (name : String) :
    defines (definitions files) kind name =
      files.any (fun f => defines (ownDefinitions f) kind name) := by
  rw [definitions, additive_addFile.foldl, defines_empty, Bool.false_or]
  rfl

/-! ## The report, file by file -/

/-- Whether a usage is of a class that is not asked for: its name looks generated
or matches a pattern to ignore. -/
def exempt (ignore : List Pattern.Compiled) (u : Usage) : Bool :=
  match u.kind with
  | .cls => isGeneratedName u.name || ignore.any (fun p => p.search u.name.toList)
  | .id => false

theorem isUndefined_eq (d : Definitions) (ignore : List Pattern.Compiled) (u : Usage) :
    isUndefined d ignore u = (!defines d u.kind u.name && !exempt ignore u) := by
  unfold isUndefined exempt
  cases u.kind <;> simp [defines, Bool.and_assoc]

/-- The issues of one markup file of a batch. -/
def fileReport (ignore : List Pattern.Compiled) (read : Read) (batch : List SourceFile)
    (file : SourceFile) : List Issue :=
  ((usages file.path (read file)).filter (fun u =>
    !batch.any (fun f => defines (ownDefinitions f) u.kind u.name) && !exempt ignore u)).map
      usageIssue

theorem issues_eq_fileReports (ignore : List Pattern.Compiled) (read : Read)
    (files : List SourceFile) :
    issues ignore read files =
      (files.filter (fun f => isMarkup f.path)).flatMap (fileReport ignore read files) := by
  have hreport : ∀ u, isUndefined (definitions files) ignore u =
      (!files.any (fun f => defines (ownDefinitions f) u.kind u.name) && !exempt ignore u) :=
    fun u => by rw [isUndefined_eq, defines_definitions]
  simp only [issues, allUsages, funext hreport, List.filter_flatMap, List.map_flatMap]
  rfl

theorem fileReport_perm {files files' : List SourceFile} (h : files'.Perm files)
    (ignore : List Pattern.Compiled) (read : Read) :
    fileReport ignore read files' = fileReport ignore read files := by
  funext file
  simp only [fileReport, h.any_eq]

/-! ## Issues and the names they are about -/

/-- The words behind the name in a message. -/
def messageEnd : String := "\" is used but not defined in any CSS file"

/-- The name that an issue of this check is about: the text of its message from
the first quotation mark to the closing words. -/
def reportedName (i : Issue) : String :=
  let quoted := (i.message.toList.dropWhile (· != '"')).drop 1
  String.ofList (quoted.take (quoted.length - messageEnd.toList.length))

theorem reportedName_usageIssue (u : Usage) : reportedName (usageIssue u) = u.name := by
  have hquoted : ((usageIssue u).message.toList.dropWhile (· != '"')).drop 1 =
      u.name.toList ++ messageEnd.toList := by
    unfold usageIssue
    cases u.kind <;> simp [messageEnd]
  unfold reportedName
  simp [hquoted]

theorem rule_usageIssue (u : Usage) :
    (usageIssue u).rule = match u.kind with
      | .cls => "class-undefined"
      | .id => "id-undefined" := by
  unfold usageIssue
  cases u.kind <;> rfl

/-- Judging usages more mildly removes issues from the report. -/
theorem report_filter {harsh mild : Usage → Bool} {keep : Issue → Bool}
    (h : ∀ u, mild u = (harsh u && keep (usageIssue u))) (us : List Usage) :
    (us.filter mild).map usageIssue = ((us.filter harsh).map usageIssue).filter keep := by
  rw [List.filter_map, List.filter_filter]
  congr 2
  funext u
  rw [h, Bool.and_comm]
  rfl

/-! ## One stylesheet more -/

theorem isMarkup_of_isSheet {path : String} (h : isSheet path = true) : isMarkup path = false := by
  simp only [isSheet, isMarkup, hasEnding, Text.endsWith, Text.startsWith] at h ⊢
  cases hp : path.toList.reverse with
  | nil => simp [hp, Text.after?] at h
  | cons c r =>
    have hc : c = 's' := by
      by_cases hc : 's' = c
      · exact hc.symm
      · simp [hp, Text.after?, hc] at h
    simp [Text.after?, hc]

theorem ownDefinitions_sheet {file : SourceFile} (h : isSheet file.path = true) :
    ownDefinitions file = Definitions.addSheet {} file.content.toList := by
  simp [ownDefinitions, addFile, h, isMarkup_of_isSheet h]

/-- Whether an issue is about a name that is among some definitions. -/
def covers (d : Definitions) (i : Issue) : Bool :=
  i.rule == "class-undefined" && d.classes.contains (reportedName i) ||
    i.rule == "id-undefined" && d.ids.contains (reportedName i)

theorem covers_usageIssue (d : Definitions) (u : Usage) :
    covers d (usageIssue u) = defines d u.kind u.name := by
  rw [covers, rule_usageIssue, reportedName_usageIssue]
  cases u.kind <;> simp [defines]

theorem issues_add_sheet (ignore : List Pattern.Compiled) (read : Read)
    (before after : List SourceFile) {sheet : SourceFile} (h : isSheet sheet.path = true) :
    issues ignore read (before ++ [sheet] ++ after) =
      (issues ignore read (before ++ after)).filter (fun i =>
        !covers (Definitions.addSheet {} sheet.content.toList) i) := by
  have husages :
      allUsages read (before ++ [sheet] ++ after) = allUsages read (before ++ after) := by
    simp [allUsages, isMarkup_of_isSheet h]
  have hdefines : ∀ kind name, defines (definitions (before ++ [sheet] ++ after)) kind name =
      (defines (definitions (before ++ after)) kind name ||
        defines (Definitions.addSheet {} sheet.content.toList) kind name) := by
    intro kind name
    simp only [defines_definitions, List.any_append, List.any_cons, List.any_nil, Bool.or_false,
      ownDefinitions_sheet h, Bool.or_assoc]
    rw [Bool.or_comm (after.any _)]
  simp only [issues, husages]
  refine report_filter (fun u => ?_) _
  rw [isUndefined_eq, isUndefined_eq, hdefines, covers_usageIssue, Bool.not_or,
    Bool.and_right_comm]

/-! ## More patterns to ignore -/

/-- Whether an issue is about a class whose name matches one of some patterns. -/
def ignoredBy (patterns : List Pattern.Compiled) (i : Issue) : Bool :=
  i.rule == "class-undefined" && patterns.any (fun p => p.search (reportedName i).toList)

theorem exempt_append (ignore more : List Pattern.Compiled) (u : Usage) :
    exempt (ignore ++ more) u = (exempt ignore u || ignoredBy more (usageIssue u)) := by
  rw [ignoredBy, rule_usageIssue, reportedName_usageIssue, exempt, exempt]
  cases u.kind <;> simp [Bool.or_assoc]

theorem issues_add_patterns (ignore more : List Pattern.Compiled) (read : Read)
    (files : List SourceFile) :
    issues (ignore ++ more) read files =
      (issues ignore read files).filter (fun i => !ignoredBy more i) := by
  refine report_filter (fun u => ?_) _
  rw [isUndefined_eq, isUndefined_eq, exempt_append, Bool.not_or, Bool.and_assoc]

theorem compilePatterns_append {charNames : Pattern.CharNames} {patterns more : List String}
    {ps qs : List Pattern.Compiled} (hp : compilePatterns charNames patterns = .ok ps)
    (hq : compilePatterns charNames more = .ok qs) :
    compilePatterns charNames (patterns ++ more) = .ok (ps ++ qs) := by
  unfold compilePatterns at *
  rw [List.mapM_append, hp, hq]
  rfl

/-- **The report loses exactly what an addition settles.** A stylesheet put
anywhere into a batch removes the issues about classes and ids that it defines by
itself, and no other. Patterns added to those to ignore remove the issues about
classes whose name one of them matches, and no other: no pattern removes an
issue about an id. -/
theorem report_loses_what_is_settled (read : Read) {charNames : Pattern.CharNames}
    {patterns more : List String} {ps qs : List Pattern.Compiled}
    (hp : compilePatterns charNames patterns = .ok ps)
    (hq : compilePatterns charNames more = .ok qs) (before after files : List SourceFile)
    {sheet : SourceFile} (hs : isSheet sheet.path = true) :
    let own := Definitions.addSheet {} sheet.content.toList
    (∀ u, reportedName (usageIssue u) = u.name) ∧
    (check ps read (before ++ [sheet] ++ after)).result =
      .ok ((check ps read (before ++ after)).issues.filter (fun i =>
        !(i.rule == "class-undefined" && own.classes.contains (reportedName i) ||
          i.rule == "id-undefined" && own.ids.contains (reportedName i)))) ∧
    compilePatterns charNames (patterns ++ more) = .ok (ps ++ qs) ∧
    (check (ps ++ qs) read files).result =
      .ok ((check ps read files).issues.filter (fun i =>
        !(i.rule == "class-undefined" && qs.any (fun q => q.search (reportedName i).toList)))) ∧
    (check (ps ++ qs) read files).issues.filter (fun i => i.rule == "id-undefined") =
      (check ps read files).issues.filter (fun i => i.rule == "id-undefined") := by
  refine ⟨reportedName_usageIssue, congrArg Except.ok (issues_add_sheet ps read before after hs),
    compilePatterns_append hp hq, congrArg Except.ok (issues_add_patterns ps qs read files), ?_⟩
  change (issues (ps ++ qs) read files).filter _ = (issues ps read files).filter _
  rw [issues_add_patterns, List.filter_filter]
  refine List.filter_congr fun i _ => ?_
  by_cases hid : i.rule = "id-undefined" <;> simp [ignoredBy, hid]

/-- A page that uses two classes and an id. -/
def cardPage : SourceFile :=
  { path := "card.html", content := "<p class='card js-open' id='top'>" }

/-- A stylesheet that defines one of the classes. -/
def cardSheet : SourceFile := { path := "card.css", content := ".card \x7b color: red \x7d" }

theorem card_report_shrinks :
    ∃ qs, compilePatterns Pattern.charNamed? ["^js-"] = .ok qs ∧ isSheet cardSheet.path = true ∧
      (check [] readingOf [cardPage]).issues.map reportedName = ["card", "js-open", "top"] ∧
      (check [] readingOf [cardPage, cardSheet]).result =
        .ok ((check [] readingOf [cardPage]).issues.filter (fun i =>
          !covers (Definitions.addSheet {} cardSheet.content.toList) i)) ∧
      (check qs readingOf [cardPage]).result =
        .ok ((check [] readingOf [cardPage]).issues.filter (fun i => !ignoredBy qs i)) := by
  have hread : (compilePatterns Pattern.charNamed? ["^js-"]).toBool = true := by decide +kernel
  cases hq : compilePatterns Pattern.charNamed? ["^js-"] with
  | error fault => simp [hq, Except.toBool] at hread
  | ok qs =>
    have hs : isSheet cardSheet.path = true := by decide +kernel
    obtain ⟨-, hsheet, -, hpatterns, -⟩ :=
      report_loses_what_is_settled readingOf (show compilePatterns _ [] = .ok [] from rfl) hq
        [cardPage] [] [cardPage] hs
    exact ⟨qs, rfl, hs, by decide +kernel, hsheet, hpatterns⟩

end SiteAudit.References
