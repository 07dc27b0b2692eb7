import SiteAudit.Proofs.Markup.Lockstep

/-!
# Stray end tags

An end tag that is reported is dropped. Two lists could remember it: the open
elements of the event source and the frames of the nesting check. Neither does,
so whatever comes behind it is read as if the tag were not there, inferred
closes included.

* `run_stray`: for the events, an end tag that ends nothing is one more close.
* `nest_stray`: for the check, this close is one more fault.
* `stray_end_adds_one_issue`: a document with the tag has one issue more than
  the document without it.
-/
namespace SiteAudit.Markup

open Tag

/-- An end tag that ends nothing adds its own close to the events. The open
elements stay, so the events behind it stay too. -/
theorem run_stray {name : String} {opened : OpenElements} (hend : endsElement name opened = false)
    (later : List Call) :
    run opened (.finish name :: later) = .closed name :: run opened later ∧
      openAfter opened (.finish name :: later) = openAfter opened later := by
  simp [run, openAfter, Call.events, Call.after, hend]

/-- The close that such a tag leaves behind adds a fault and moves no frame, so
the faults behind it and the final state stay. -/
theorem nest_stray {name : String} {opened : OpenElements} {n : Nest} (h : Coupled opened n)
    (hv : isVoid name = false) (hend : endsElement name opened = false) (later : List Event) :
    n.strays (.closed name :: later) = (strayOf name opened, n.line) :: n.strays later ∧
      n.run (.closed name :: later) = n.run later := by
  obtain ⟨hstray, hafter⟩ := coupled_stray h hend
  rw [hv, if_neg Bool.false_ne_true] at hstray
  simp [Nest.strays, Nest.run, hstray, hafter]

theorem stray_of_reported {path : String} {calls : List Call} {name : String}
    (h : strayIssues path (calls ++ [.finish name]) ≠ strayIssues path calls) :
    isVoid name = false ∧ endsElement name (openAfter [] calls) = false := by
  rw [strayIssues_snoc] at h
  cases hend : endsElement name (openAfter [] calls) with
  | true => simp [faults, hend] at h
  | false =>
    cases hv : isVoid name with
    | true => simp [faults, hv] at h
    | false => exact ⟨rfl, rfl⟩

/-- The issues of a document that is read on behind `calls`: those of the tags
in `calls`, and those that the rest brings in the state reached there. -/
theorem issues_behind (path : String) (calls later : List Call) (failure : Option Failure) :
    issues path ⟨calls ++ later, failure⟩ =
      strayIssues path calls ++
        (((Nest.run {} (events calls)).strays (run (openAfter [] calls) later)).map
            (fun (stray, line) => stray.issue path line) ++
          (failure.map (failureIssue path
            ((Nest.run {} (events calls)).run (run (openAfter [] calls) later)).line)).toList ++
          ((Nest.run {} (events calls)).run
            (run (openAfter [] calls) later)).frames.reverse.map (Frame.issue path)) := by
  simp only [issues, strayIssues, events, run_append, Nest.strays_append, Nest.run_append,
    List.map_append, List.append_assoc]

/-- **No cascade.** Where an end tag is reported, the open elements and the
frames behind it are those in front of it. Whatever follows, and whether or not
the reading then fails, the issues are those of the document without the tag
with the one issue of the tag put in behind the issues of the earlier tags; no
other issue comes, goes, or changes its line or its words. -/
theorem stray_end_adds_one_issue (path : String) (calls : List Call) (name : String)
    (h : strayIssues path (calls ++ [.finish name]) ≠ strayIssues path calls) :
    openAfter [] (calls ++ [.finish name]) = openAfter [] calls ∧
    Nest.run {} (events (calls ++ [.finish name])) = Nest.run {} (events calls) ∧
    ∃ i, (i.rule = Rule.tagUnexpectedClose ∨ i.rule = Rule.tagMismatch) ∧
      i.line = (Nest.run {} (events calls)).line ∧
      strayIssues path (calls ++ [.finish name]) = strayIssues path calls ++ [i] ∧
      ∀ later failure, ∃ rest,
        issues path ⟨calls ++ later, failure⟩ = strayIssues path calls ++ rest ∧
        issues path ⟨calls ++ .finish name :: later, failure⟩ =
          strayIssues path calls ++ i :: rest := by
  obtain ⟨hv, hend⟩ := stray_of_reported h
  have hcoupled := coupled_run calls coupled_init
  have hrun := fun later => (run_stray hend later).1
  have hnest := fun later => nest_stray hcoupled hv hend later
  refine ⟨?_, ?_, (strayOf name (openAfter [] calls)).issue path (Nest.run {} (events calls)).line,
    ?_, ?_, ?_, fun later failure => ⟨_, issues_behind path calls later failure, ?_⟩⟩
  · rw [openAfter_append]
    exact (run_stray hend []).2
  · rw [events, run_append, hrun, Nest.run_append]
    exact (hnest []).2
  · rw [strayOf_rule]
    split
    · exact Or.inl rfl
    · exact Or.inr rfl
  · cases strayOf name (openAfter [] calls) <;> rfl
  · rw [strayIssues_snoc]
    simp [faults, hend, hv]
  · have hstrays := (hnest (run (openAfter [] calls) later)).1
    have hfinal := (hnest (run (openAfter [] calls) later)).2
    simp only [issues_behind, hrun, events, hstrays, hfinal, List.map_cons, List.cons_append]

/-- A list up to its first item. -/
def listFront : List Call := [.start "ul" [], .start "li" [], .data "one\n"]

/-- The rest of the list, which leaves out the end tags of both items, and a
paragraph. -/
def listBack : List Call := [.start "li" [], .data "two\n", .finish "ul", .start "p" []]

/-- Between the two parts an end tag that fits nowhere is the first of two
issues. The paragraph is still the only element left open. -/
theorem listFront_stray :
    strayIssues "a.html" (listFront ++ [.finish "div"]) ≠ strayIssues "a.html" listFront ∧
    (issues "a.html" { calls := listFront ++ listBack }).map Issue.rule = [Rule.tagUnclosed] ∧
    ∃ i, (i.rule = Rule.tagUnexpectedClose ∨ i.rule = Rule.tagMismatch) ∧ i.line = 2 ∧
      issues "a.html" { calls := listFront ++ .finish "div" :: listBack } =
        i :: issues "a.html" { calls := listFront ++ listBack } := by
  have hstray : strayIssues "a.html" (listFront ++ [.finish "div"]) ≠
      strayIssues "a.html" listFront := by decide
  have hfront : strayIssues "a.html" listFront = [] := by decide
  obtain ⟨-, -, i, hrule, hline, -, hall⟩ :=
    stray_end_adds_one_issue "a.html" listFront "div" hstray
  obtain ⟨rest, hwithout, hwith⟩ := hall listBack none
  rw [hfront, List.nil_append] at hwithout hwith
  exact ⟨hstray, by decide, i, hrule, hline, by rw [hwith, hwithout]⟩

end SiteAudit.Markup
