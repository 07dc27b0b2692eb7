import SiteAudit.Proofs.Batch.Taxonomy
import SiteAudit.Proofs.Markup.FailedReadings
import SiteAudit.Proofs.Tag.DeliveredFeeds

/-!
# The lines of a document

Lines are counted in the text that a document delivers, and that text has its
references resolved. A reference to a line feed so begins a line that the
document does not have. Nothing else does.

* `newlinesIn_textOf_run`: the events of a document deliver the line feeds of
  its calls.
* `line_of_mem_issues`, `line_of_mem_usages`: a reported line is one to which
  the delivered text leads.
* `lines_within_document`: hence it is at most the number of lines of the
  document and of its references to line feeds. A document may name a line that
  it does not have (`referred_line_feed`).
-/
namespace SiteAudit.Markup

open Tag

/-! ## Delivered text -/

theorem textOf_append (a b : List Event) : textOf (a ++ b) = textOf a ++ textOf b := by
  induction a with
  | nil => simp [textOf]
  | cons e more ih =>
    cases e with
    | opened name attributes => exact ih
    | closed name => exact ih
    | text data => rw [List.cons_append, textOf, ih, textOf, String.append_assoc]

theorem newlinesIn_textOf_call (opened : OpenElements) (c : Call) :
    newlinesIn (textOf (c.events opened)) = c.feeds := by
  cases c with
  | start name attributes =>
    rw [Call.events, textOf_append, textOf_closed]
    rfl
  | finish name =>
    have hclosed : textOf ((if endsElement name opened then (inside name opened).map .closed
        else []) ++ [.closed name]) = "" := by
      rw [textOf_append]
      split
      · rw [textOf_closed]
        rfl
      · rfl
    rw [Call.events, hclosed]
    rfl
  | data text =>
    simp [Call.events, textOf, newlinesIn, Call.feeds]

theorem newlinesIn_textOf_run (opened : OpenElements) (calls : List Call) :
    newlinesIn (textOf (run opened calls)) = delivered calls := by
  induction calls generalizing opened with
  | nil => rfl
  | cons c more ih =>
    rw [run, textOf_append, newlinesIn_append, newlinesIn_textOf_call, ih]
    rfl

/-! ## Lines that the delivered text leads to -/

theorem line_le_of_mem_strays {n : Nest} {es : List Event} {x : Stray × Nat}
    (h : x ∈ n.strays es) : x.2 ≤ (n.run es).line := by
  induction es generalizing n with
  | nil => cases h
  | cons e more ih =>
    rcases List.mem_append.mp h with h | h
    · obtain ⟨stray, -, rfl⟩ := by simpa using h
      rw [Nest.line_run]
      exact Nat.le_add_right ..
    · exact ih h

theorem line_le_of_mem_frames {n : Nest} {es : List Event}
    (hframes : ∀ f ∈ n.frames, f.line ≤ n.line) {f : Frame} (h : f ∈ (n.run es).frames) :
    f.line ≤ (n.run es).line := by
  induction es generalizing n with
  | nil => exact hframes f h
  | cons e more ih =>
    refine ih (fun g hg => ?_) h
    rcases Nest.frame_after hg with hg | hg
    · exact Nat.le_trans (hframes g hg) (n.line_after e)
    · exact hg ▸ n.line_after e

theorem line_le_of_mem_usagesFrom {path : String} {line : Nat} {es : List Event} {u : Usage}
    (h : u ∈ usagesFrom path line es) : u.line ≤ line + newlinesIn (textOf es) := by
  induction es generalizing line with
  | nil => cases h
  | cons e more ih =>
    cases e with
    | opened name attributes =>
      rcases List.mem_append.mp h with h | h
      · rw [line_of_mem_tagUsages h]
        exact Nat.le_add_right ..
      · exact ih h
    | closed name => exact ih h
    | text data =>
      rw [textOf, newlinesIn_append, ← Nat.add_assoc]
      exact ih h

/-- However a document was read, its issues have lines to which its text leads. -/
theorem line_of_mem_issues {path : String} {reading : Reading} {i : Issue}
    (h : i ∈ issues path reading) : 1 ≤ i.line ∧ i.line ≤ 1 + delivered reading.calls := by
  refine ⟨(markup_holds path reading h).line, ?_⟩
  have hlast : (Nest.run {} (events reading.calls)).line = 1 + delivered reading.calls := by
    rw [Nest.line_run, events, newlinesIn_textOf_run]
  rw [← hlast]
  rcases List.mem_append.mp h with h | h
  · rcases List.mem_append.mp h with h | h
    · obtain ⟨⟨stray, line⟩, hx, rfl⟩ := List.mem_map.mp h
      have hline := line_le_of_mem_strays hx
      cases stray with
      | unexpected name => exact hline
      | mismatched expected name => exact hline
    · obtain ⟨failure, -, rfl⟩ := by simpa using h
      exact Nat.le_refl _
  · obtain ⟨f, hf, rfl⟩ := List.mem_map.mp h
    exact line_le_of_mem_frames (by simp) (List.mem_reverse.mp hf)

theorem line_of_mem_usages {path : String} {reading : Reading} {u : Usage}
    (h : u ∈ usages path reading) : 1 ≤ u.line ∧ u.line ≤ 1 + delivered reading.calls := by
  have hle := line_le_of_mem_usagesFrom h
  rw [events, newlinesIn_textOf_run] at hle
  exact ⟨le_line_of_mem_usagesFrom h, hle⟩

/-- **Reported lines exist, but for references.** The check of a document always
gives its issues, and the search for usages its usages, and each of them has a
line from the first to the last of the document, where the document counts one
more line for every place that refers to a line feed. -/
theorem lines_within_document (file : SourceFile) :
    (∃ found, (check file).result = .ok found ∧ ∀ i ∈ found, 1 ≤ i.line ∧
      i.line ≤ 1 + Text.newlines file.content.toList + feedReferences file.content.toList) ∧
    ∀ u ∈ usages file.path (.ofText file.content), 1 ≤ u.line ∧
      u.line ≤ 1 + Text.newlines file.content.toList + feedReferences file.content.toList := by
  have hdelivered : 1 + delivered (Reading.ofText file.content).calls ≤
      1 + Text.newlines file.content.toList + feedReferences file.content.toList := by
    rw [Nat.add_assoc]
    exact Nat.add_le_add_left (delivered_lex file.content.toList) 1
  constructor
  · refine ⟨issues file.path (.ofText file.content), rfl, fun i hi => ?_⟩
    obtain ⟨hfirst, hlast⟩ := line_of_mem_issues hi
    exact ⟨hfirst, Nat.le_trans hlast hdelivered⟩
  · intro u hu
    obtain ⟨hfirst, hlast⟩ := line_of_mem_usages hu
    exact ⟨hfirst, Nat.le_trans hlast hdelivered⟩

/-- A document of one line whose stray end tag is reported on a second one. -/
theorem referred_line_feed :
    (check ⟨"a.html", "&#10;</b>"⟩).issues.map (·.line) = [2] ∧
      (¬ ∀ i ∈ (check ⟨"a.html", "&#10;</b>"⟩).issues,
        1 ≤ i.line ∧ i.line ≤ 1 + Text.newlines "&#10;</b>".toList) ∧
      feedReferences "&#10;</b>".toList = 1 := by
  decide +kernel

end SiteAudit.Markup
