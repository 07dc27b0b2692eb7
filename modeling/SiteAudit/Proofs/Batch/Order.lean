import Mathlib.Data.List.Perm.Basic
import SiteAudit.Proofs.Batch.Merging
import SiteAudit.Proofs.References.Report

/-!
# The order of a batch

Files are checked one by one and definitions are gathered before any usage is
judged, so the order in which a batch lists its files decides only the order of
the issues.

* `respond_perm`: an audit whose validators do not mind the order finds the same
  issues, and the same tally, in any order.
* `order_decides_nothing`: the audit with all built-in components is one of
  these, and its validator gives one block per markup file.
-/
namespace SiteAudit

theorem tally_perm {found found' : List Issue} (h : found'.Perm found) :
    Tally.ofIssues found' = Tally.ofIssues found := by
  simp only [tally_ofIssues, h.countP_eq]

namespace Audit

/-- **Any order.** If every validator finds the same issues in both orders, so
does the audit. -/
theorem respond_perm (audit : Audit) {files files' : List SourceFile} (h : files'.Perm files)
    (hv : ∀ v ∈ audit.validators, (batchIssues files' v).Perm (batchIssues files v)) :
    (audit.respond files').lint.issues.Perm (audit.respond files).lint.issues ∧
      (audit.respond files').lint.tally = (audit.respond files).lint.tally := by
  have hissues : (audit.issues files').Perm (audit.issues files) :=
    (h.flatMap_right audit.fileIssues).append (List.Perm.flatMap_left _ hv)
  exact ⟨hissues, tally_perm hissues⟩

end Audit

open References in
/-- **The order of the files decides nothing but the order of the issues.** The
audit with all components finds the same issues, with the same tally, in a batch
and in any rearrangement of it. The validator's issues are one block per markup
file, in the order of the files, and the block of a file is the same in every
arrangement: its usages that no file of the batch defines, wherever it stands. -/
theorem order_decides_nothing (parse : Script.Parse) (ignore : List Pattern.Compiled)
    {files files' : List SourceFile} (h : files'.Perm files) :
    ((Audit.over parse ignore).respond files').lint.issues.Perm
        ((Audit.over parse ignore).respond files).lint.issues ∧
      ((Audit.over parse ignore).respond files').lint.tally =
        ((Audit.over parse ignore).respond files).lint.tally ∧
      (∀ read, (check ignore read files').result =
        .ok ((files'.filter (fun f => isMarkup f.path)).flatMap
          (fileReport ignore read files))) := by
  have hcheck : ∀ read, issues ignore read files' =
      (files'.filter (fun f => isMarkup f.path)).flatMap (fileReport ignore read files) := by
    intro read
    rw [issues_eq_fileReports, fileReport_perm h]
  have hreport : (issues ignore readingOf files').Perm (issues ignore readingOf files) := by
    rw [hcheck, issues_eq_fileReports]
    exact (h.filter _).flatMap_right _
  obtain ⟨hissues, htally⟩ := (Audit.over parse ignore).respond_perm h (by
    intro v hv
    obtain rfl : v = referenceValidator ignore := by simpa [Audit.over] using hv
    exact hreport)
  exact ⟨hissues, htally, fun read => congrArg Except.ok (hcheck read)⟩

open References in
theorem card_batch_reordered :
    [cardSheet, cardPage].Perm [cardPage, cardSheet] ∧
      (Audit.default.respond [cardSheet, cardPage]).lint.issues.Perm
        (Audit.default.respond [cardPage, cardSheet]).lint.issues ∧
      (Audit.default.respond [cardSheet, cardPage]).lint.tally =
        (Audit.default.respond [cardPage, cardSheet]).lint.tally ∧
      (check [] readingOf [cardSheet, cardPage]).result =
        .ok (fileReport [] readingOf [cardPage, cardSheet] cardPage) := by
  have hperm : [cardSheet, cardPage].Perm [cardPage, cardSheet] := .swap ..
  obtain ⟨hissues, htally, hblocks⟩ := order_decides_nothing Script.parse [] hperm
  have hpages : [cardSheet, cardPage].filter (fun f => isMarkup f.path) = [cardPage] := by
    decide +kernel
  have hblock := hblocks readingOf
  rw [hpages, List.flatMap_singleton] at hblock
  exact ⟨hperm, hissues, htally, hblock⟩

end SiteAudit
