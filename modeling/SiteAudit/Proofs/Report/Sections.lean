import SiteAudit.Proofs.Batch.Merging
import SiteAudit.Report

/-!
# The sections of a report

The text of a report, the tally in its last line and the threshold of a run are
computed apart, each from the same list of issues. `sections` is what a reader
finds in the report: one section for each severity that occurs.

* `lines_eq`: the lines of a report are those of its sections and the summary.
* `sections_perm`: no issue is lost, repeated or moved within its section.
* `size_sections`: the tally holds the sizes of the sections.
* `fails_iff`: a response fails at a threshold when it has an issue at or above.
-/
namespace SiteAudit

/-- Whether an issue of a severity is at or above a threshold. -/
def Threshold.covers : Threshold → Severity → Prop
  | .error, severity => severity = .error
  | .warning, severity => severity = .error ∨ severity = .warning
  | .never, _ => False

/-- The threshold is tested on the tally, and that is a test of the issues. -/
theorem fails_iff (issues : List Issue) (threshold : Threshold) :
    Response.fails { lint := .ofIssues issues } threshold = true ↔
      ∃ i ∈ issues, threshold.covers i.severity := by
  have htally : (CheckResult.ofIssues issues).tally = _ := tally_ofIssues issues
  cases threshold with
  | error => simp [Response.fails, htally, List.countP_pos_iff, Threshold.covers]
  | warning =>
    simp only [Response.fails, htally, Bool.or_eq_true, decide_eq_true_eq, List.countP_pos_iff,
      beq_iff_eq, Threshold.covers, and_or_left, exists_or]
  | never => simp [Response.fails, Threshold.covers]

namespace Report

/-- The issues of one severity under their heading. -/
structure Section where
  severity : Severity
  heading : String
  members : List Issue
  deriving DecidableEq, Repr

/-- A heading with the size of the section, its issues, and an empty line. -/
def Section.lines (s : Section) : List String :=
  (s.heading ++ " (" ++ toString s.members.length ++ "):") :: s.members.map issueLine ++ [""]

/-- The section of a severity, be it empty or not. -/
def sectionOf (issues : List Issue) (h : Severity × String) : Section where
  severity := h.1
  heading := h.2
  members := issues.filter (fun i => i.severity == h.1)

/-- The sections of a report: those of the severities that occur. -/
def sections (issues : List Issue) : List Section :=
  (headings.map (sectionOf issues)).filter (fun s => !s.members.isEmpty)

/-- How many issues the section of a severity has; none where there is no such
section. -/
def size (found : List Section) (severity : Severity) : Nat :=
  ((found.find? (fun s => s.severity == severity)).map (fun s => s.members.length)).getD 0

/-! ## Members -/

theorem mem_sections {issues : List Issue} {s : Section} :
    s ∈ sections issues ↔
      ((s.severity, s.heading) ∈ headings ∧
        s.members = issues.filter (fun i => i.severity == s.severity)) ∧ s.members ≠ [] := by
  unfold sections
  rw [List.mem_filter, List.mem_map]
  have hne : (!s.members.isEmpty) = true ↔ s.members ≠ [] := by simp
  rw [hne]
  refine and_congr_left fun _ => ⟨?_, ?_⟩
  · rintro ⟨h, hh, rfl⟩
    exact ⟨hh, rfl⟩
  · rintro ⟨hh, hmembers⟩
    refine ⟨_, hh, ?_⟩
    cases s
    simp_all [sectionOf]

theorem heading_mem (severity : Severity) : ∃ heading, (severity, heading) ∈ headings := by
  cases severity <;> simp [headings]

theorem exists_section {issues : List Issue} {i : Issue} (hi : i ∈ issues) :
    ∃ s ∈ sections issues, s.severity = i.severity ∧ i ∈ s.members := by
  obtain ⟨heading, hheading⟩ := heading_mem i.severity
  have hmem : i ∈ (sectionOf issues (i.severity, heading)).members := by
    simpa [sectionOf] using hi
  exact ⟨_, mem_sections.mpr ⟨⟨hheading, rfl⟩, List.ne_nil_of_mem hmem⟩, rfl, hmem⟩

theorem section_iff {issues : List Issue} {severity : Severity} {heading : String}
    (h : (severity, heading) ∈ headings) :
    (∃ s ∈ sections issues, s.heading = heading) ↔ ∃ i ∈ issues, i.severity = severity := by
  constructor
  · rintro ⟨s, hs, rfl⟩
    obtain ⟨⟨hheading, hmembers⟩, hne⟩ := mem_sections.mp hs
    -- headings tell severities apart
    have hseverity : s.severity = severity := by
      revert h hheading
      generalize s.heading = heading
      generalize s.severity = found
      cases severity <;> cases found <;> simp +contextual [headings]
    obtain ⟨i, hi⟩ := List.exists_mem_of_ne_nil _ hne
    rw [hmembers, List.mem_filter, beq_iff_eq, hseverity] at hi
    exact ⟨i, hi⟩
  · rintro ⟨i, hi, rfl⟩
    have hmem : i ∈ (sectionOf issues (i.severity, heading)).members := by
      simpa [sectionOf] using hi
    exact ⟨_, mem_sections.mpr ⟨⟨h, rfl⟩, List.ne_nil_of_mem hmem⟩, rfl⟩

theorem filter_perm (issues : List Issue) :
    (headings.flatMap (fun h => (sectionOf issues h).members)).Perm issues := by
  have hflat : ∀ issues, headings.flatMap (fun h => (sectionOf issues h).members) =
      issues.filter (fun i => i.severity == .error) ++
        (issues.filter (fun i => i.severity == .warning) ++
          issues.filter (fun i => i.severity == .info)) := by
    intro issues
    simp [headings, sectionOf]
  rw [hflat]
  induction issues with
  | nil => exact .nil
  | cons i more ih =>
    cases hs : i.severity with
    | error => simpa [hs] using ih
    | warning => simpa [hs] using List.perm_middle.trans (ih.cons i)
    | info =>
      have hlast : ∀ a b c : List Issue, (a ++ (b ++ i :: c)).Perm (i :: (a ++ (b ++ c))) := by
        intro a b c
        rw [← List.append_assoc, ← List.append_assoc]
        exact List.perm_middle
      simpa [hs] using (hlast _ _ _).trans (ih.cons i)

/-- **Nothing is lost or repeated.** The sections together hold the issues of the
list, each as often as the list does. -/
theorem sections_perm (issues : List Issue) :
    ((sections issues).flatMap Section.members).Perm issues := by
  have hflat : (sections issues).flatMap Section.members =
      headings.flatMap (fun h => (sectionOf issues h).members) := by
    unfold sections
    induction headings with
    | nil => rfl
    | cons h more ih =>
      cases hm : (sectionOf issues h).members <;> simp_all
  rw [hflat]
  exact filter_perm issues

/-! ## Lines -/

theorem group_eq (issues : List Issue) (h : Severity × String) :
    group issues h.1 h.2 =
      if (sectionOf issues h).members = [] then [] else (sectionOf issues h).lines := by
  simp [group, sectionOf, Section.lines]

theorem size_sections (issues : List Issue) (severity : Severity) :
    size (sections issues) severity = issues.countP (fun i => i.severity == severity) := by
  rw [List.countP_eq_length_filter]
  cases hm : issues.filter (fun i => i.severity == severity) with
  | nil =>
    have hnone : (sections issues).find? (fun s => s.severity == severity) = none := by
      refine List.find?_eq_none.mpr fun s hs hseverity => ?_
      obtain ⟨⟨-, hmembers⟩, hne⟩ := mem_sections.mp hs
      rw [beq_iff_eq] at hseverity
      exact hne (by rw [hmembers, hseverity, hm])
    simp [size, hnone]
  | cons i more =>
    have hi : i ∈ issues.filter (fun i => i.severity == severity) := by simp [hm]
    rw [List.mem_filter, beq_iff_eq] at hi
    obtain ⟨s, hs, hseverity, -⟩ := exists_section hi.1
    have hsome : ((sections issues).find? (fun s => s.severity == severity)).isSome = true :=
      List.find?_isSome.mpr ⟨s, hs, by simp [hseverity, hi.2]⟩
    obtain ⟨t, ht⟩ := Option.isSome_iff_exists.mp hsome
    have htseverity : t.severity = severity := by simpa using List.find?_some ht
    obtain ⟨⟨-, hmembers⟩, -⟩ := mem_sections.mp (List.mem_of_find?_eq_some ht)
    simp [size, ht, hmembers, htseverity, hm]

/-- **The lines of a report** are those of its sections, and the sizes of these
in one line. -/
theorem lines_eq (issues : List Issue) :
    lines { lint := .ofIssues issues } =
      (sections issues).flatMap Section.lines ++
        ["Summary: " ++ toString (size (sections issues) .error) ++ " errors, " ++
          toString (size (sections issues) .warning) ++ " warnings, " ++
          toString (size (sections issues) .info) ++ " info"] := by
  have hgroups : headings.flatMap (fun h => group issues h.1 h.2) =
      (sections issues).flatMap Section.lines := by
    unfold sections
    induction headings with
    | nil => rfl
    | cons h more ih =>
      rw [List.flatMap_cons, group_eq, ih]
      cases hm : (sectionOf issues h).members <;> simp [hm]
  unfold lines summaryLine
  congr 1
  simp only [CheckResult.ofIssues, tally_ofIssues, size_sections]

/-- A text that lines are joined to begins with the first of them. -/
theorem prefix_intercalate (line : String) (more : List String) :
    line.toList <+: ("\n".intercalate (line :: more)).toList := by
  rw [String.toList_intercalate]
  cases more <;> simp [List.intercalate]

/-- The report of issues begins with a heading, so it is not the report that
there are none. -/
theorem text_eq_iff (issues : List Issue) :
    text { lint := .ofIssues issues } = "No issues found" ↔ issues = [] := by
  constructor
  · intro htext
    cases issues with
    | nil => rfl
    | cons i more =>
      exfalso
      obtain ⟨s, hs, -⟩ := exists_section (List.mem_cons_self : i ∈ i :: more)
      obtain ⟨first, rest, hsections⟩ := List.exists_cons_of_ne_nil (List.ne_nil_of_mem hs)
      have hfirst : first ∈ sections (i :: more) := by simp [hsections]
      obtain ⟨⟨hheading, -⟩, -⟩ := mem_sections.mp hfirst
      have hlines : text { lint := .ofIssues (i :: more) } =
          "\n".intercalate (lines { lint := .ofIssues (i :: more) }) := rfl
      rw [hlines, lines_eq, hsections, List.flatMap_cons, Section.lines, List.cons_append,
        List.cons_append, List.cons_append] at htext
      have hbegin : (first.heading ++ " (" ++ toString first.members.length ++ "):").toList <+:
          "No issues found".toList := by
        rw [← htext]
        exact prefix_intercalate ..
      -- no heading begins like the report that there is nothing
      revert hheading hbegin
      generalize first.heading = heading
      generalize first.severity = severity
      cases severity <;> simp +contextual [headings]
  · rintro rfl
    rfl

/-! ## The three together -/

/-- **Report, tally and verdict agree.** The report of a list of issues says that
there are none exactly when there are none. Otherwise its lines are those of its
sections: one for each severity that occurs, in the order of the headings, with
the issues of that severity in the order of the list, and all sections together
with every issue of the list as often as the list has it. The summary has the
sizes of the sections. And a run fails at a threshold when a section at or above
it is there. -/
theorem report_tally_and_verdict_agree (issues : List Issue) :
    let r : Response := { lint := .ofIssues issues }
    let found := sections issues
    (text r = "No issues found" ↔ issues = []) ∧
    (issues ≠ [] → text r = "\n".intercalate (lines r)) ∧
    lines r = found.flatMap (fun s =>
        (s.heading ++ " (" ++ toString s.members.length ++ "):") ::
          s.members.map issueLine ++ [""]) ++
      ["Summary: " ++ toString (size found .error) ++ " errors, " ++
        toString (size found .warning) ++ " warnings, " ++ toString (size found .info) ++
        " info"] ∧
    (found.map (fun s => (s.severity, s.heading))).Sublist
      [(.error, "ERRORS"), (.warning, "WARNINGS"), (.info, "INFO")] ∧
    (∀ s ∈ found, s.members ≠ [] ∧
      s.members = issues.filter (fun i => i.severity == s.severity)) ∧
    (∀ i ∈ issues, ∃ s ∈ found, s.severity = i.severity) ∧
    (found.flatMap Section.members).Perm issues ∧
    r.lint.tally = ⟨size found .error, size found .warning, size found .info⟩ ∧
    (r.fails .error = true ↔ ∃ s ∈ found, s.heading = "ERRORS") ∧
    (r.fails .warning = true ↔ ∃ s ∈ found, s.heading = "ERRORS" ∨ s.heading = "WARNINGS") ∧
    r.fails .never = false := by
  intro r found
  have herror : (.error, "ERRORS") ∈ headings := by simp [headings]
  have hwarning : (.warning, "WARNINGS") ∈ headings := by simp [headings]
  refine ⟨text_eq_iff issues, fun h => ?_, lines_eq issues, ?_, fun s hs => ?_, fun i hi => ?_,
    sections_perm issues, ?_, ?_, ?_, rfl⟩
  · exact if_neg (by simpa [r, CheckResult.ofIssues] using h)
  · have hall : (headings.map (sectionOf issues)).map (fun s => (s.severity, s.heading)) =
        headings := by simp [headings, sectionOf]
    have hsub : (found.map (fun s => (s.severity, s.heading))).Sublist
        ((headings.map (sectionOf issues)).map (fun s => (s.severity, s.heading))) :=
      List.filter_sublist.map _
    rw [hall] at hsub
    exact hsub
  · obtain ⟨⟨-, hmembers⟩, hne⟩ := mem_sections.mp hs
    exact ⟨hne, hmembers⟩
  · obtain ⟨s, hs, hseverity, -⟩ := exists_section hi
    exact ⟨s, hs, hseverity⟩
  · simp only [r, found, CheckResult.ofIssues, tally_ofIssues, size_sections]
  · rw [fails_iff, section_iff herror]
    rfl
  · simp only [and_or_left, exists_or]
    rw [fails_iff, section_iff herror, section_iff hwarning]
    simp only [Threshold.covers, and_or_left, exists_or]

end Report

end SiteAudit
