import Mathlib.Data.List.Induction
import SiteAudit.Proofs.Markup.UsageLines

/-!
# Readings that fail

A source of events may fail between two calls, for any reason. Its callbacks act
while it works (`Callbacks.work`), so what they did before the failure stays
done, and the two readers of markup catch the failure: the nesting check notes
it as an issue, the search for usages passes over it.

* `work_failing`: up to the failure a source does what it would do without it.
* `nestingAtWork_eq`, `usagesAtWork_eq`: the two readers, with the failure caught,
  find what `issues` and `usages` say of the calls before it.
* `frame_since`: a frame belongs to an element that no later call has ended, and
  has the line of its start tag.
* `failure_adds_one_issue`: a failure costs no issue and no usage, and adds one
  issue in front of those for the elements left open.
-/
namespace SiteAudit.Tag

variable {σ : Type}

/-! ## A source that fails -/

/-- What a source does next: it takes a call, or it fails. -/
inductive Act where
  | take (c : Call)
  | fail (failure : Failure)
  deriving DecidableEq, Repr

/-- A source at work. A failure leaves the open elements and the state of the
callbacks as they are, and nothing behind it is done. -/
def Callbacks.work (h : Callbacks σ) : List Act → ExceptT Failure (StateM (Source σ)) Unit
  | [] => pure ()
  | .take c :: more => do
    modify fun p => h.take p c
    h.work more
  | .fail failure :: _ => throw failure

theorem Callbacks.work_calls (h : Callbacks σ) (p : Source σ) (calls : List Call)
    (more : List Act) :
    (h.work (calls.map .take ++ more)).run p = (h.work more).run (h.feed p calls) := by
  induction calls generalizing p with
  | nil => rfl
  | cons c rest ih => exact ih (h.take p c)

/-- What was done before a failure stays done. -/
theorem Callbacks.work_failing (h : Callbacks σ) (p : Source σ) (calls : List Call)
    (failure : Failure) (more : List Act) :
    (h.work (calls.map .take ++ .fail failure :: more)).run p =
      (.error failure, h.feed p calls) :=
  h.work_calls p calls _

/-! ## Since when an element is open -/

/-- The elements that a call leaves as they are. A start tag may put an element of
the same name in the place of one that it ends, so these are not just the
elements that are open before and behind it. -/
def Call.kept (opened : OpenElements) : Call → OpenElements
  | .start name _ => opened.drop (impliedRun name opened).length
  | c => c.after opened

/-- The element `name`, with the elements `outer` around it, was opened by the
start tag behind `before`, and no later call has ended it. -/
def OpenSince (before : List Call) (name : String) (outer : OpenElements)
    (calls : List Call) : Prop :=
  ∃ attributes later, calls = before ++ .start name attributes :: later ∧
    openAfter [] (before ++ [.start name attributes]) = name :: outer ∧
    ∀ a c b, later = a ++ c :: b →
      (name :: outer) <:+ c.kept (openAfter [] (before ++ .start name attributes :: a))

theorem OpenSince.snoc {before calls : List Call} {name : String} {outer : OpenElements}
    {c : Call} (h : OpenSince before name outer calls)
    (hc : (name :: outer) <:+ c.kept (openAfter [] calls)) :
    OpenSince before name outer (calls ++ [c]) := by
  obtain ⟨attributes, later, rfl, hopened, hlater⟩ := h
  refine ⟨attributes, later ++ [c], by simp, hopened, fun a d b hsplit => ?_⟩
  rcases List.eq_nil_or_concat b with rfl | ⟨b, e, rfl⟩
  · obtain ⟨rfl, rfl⟩ := List.append_inj' hsplit rfl |>.imp id List.singleton_inj.mp
    exact hc
  · rw [List.concat_eq_append, ← List.cons_append, ← List.append_assoc] at hsplit
    exact hlater a d b (List.append_inj' hsplit rfl).1

end SiteAudit.Tag

namespace SiteAudit.Markup

open Tag

/-! ## The frames behind a call -/

theorem textOf_closed (names : List String) : textOf (names.map .closed) = "" := by
  induction names with
  | nil => rfl
  | cons name more ih => exact ih

theorem frames_closes {n : Nest} {ended rest : List Frame} (hf : n.frames = ended ++ rest)
    (hv : ∀ f ∈ ended, isVoid f.name = false) :
    (n.run ((ended.map Frame.name).map .closed)).frames = rest := by
  induction ended generalizing n with
  | nil => exact hf
  | cons f more ih =>
    have hclosed := (Nest.close_top (hv f (List.mem_cons_self ..)) hf).2
    exact ih hclosed fun g hg => hv g (List.mem_cons_of_mem _ hg)

/-- A call removes frames from the top, those of the elements that it ends, and
may put one frame there, for its own element and with the line reached. -/
theorem frames_call {opened : OpenElements} {n : Nest} (c : Call) (h : Coupled opened n) :
    ∃ ended kept, n.frames = ended ++ kept ∧ kept.map Frame.name = c.kept opened ∧
      ((n.run (c.events opened)).frames = kept ∨
        ∃ name attributes, c = .start name attributes ∧
          (n.run (c.events opened)).frames = ⟨name, n.line⟩ :: kept) := by
  have hnames := h.names
  have hsolid : ∀ f ∈ n.frames, isVoid f.name = false := fun f hf =>
    h.solid f.name (hnames ▸ List.mem_map_of_mem hf)
  cases c with
  | data text =>
    exact ⟨[], n.frames, rfl, hnames, Or.inl rfl⟩
  | start name attributes =>
    have hsplit := impliedRun_append_drop name opened
    rw [← hsplit] at hnames
    obtain ⟨ended, kept, hframes, hended, hkept⟩ := List.map_eq_append_iff.mp hnames
    refine ⟨ended, kept, hframes, hkept, ?_⟩
    have hcloses := frames_closes hframes fun f hf => hsolid f (by simp [hframes, hf])
    have hline := Nest.line_run n ((ended.map Frame.name).map .closed)
    rw [textOf_closed] at hline
    rw [hended] at hcloses hline
    simp only [Call.events, Nest.run_append, Nest.run]
    cases hv : isVoid name with
    | true => exact Or.inl (by simp [Nest.after, hv, hcloses])
    | false =>
      refine Or.inr ⟨name, attributes, rfl, ?_⟩
      rw [Nest.frame_opened _ hv, hcloses, hline]
      rfl
  | finish name =>
    cases hend : endsElement name opened with
    | false =>
      refine ⟨[], n.frames, rfl, ?_, Or.inl ?_⟩
      · simp [Call.kept, Call.after, hend, hnames]
      · simp [Call.events, hend, Nest.run, (coupled_stray h hend).2]
    | true =>
      simp only [endsElement, Bool.and_eq_true, List.contains_iff_mem] at hend
      obtain ⟨inner, outer, rfl, hn⟩ := List.eq_append_cons_of_mem hend.1
      rw [inside_append hn, List.all_eq_true] at hend
      obtain ⟨hinferred, hafter⟩ := finish_eq hn hend.2 outer
      rw [← List.singleton_append, ← List.append_assoc] at hnames
      obtain ⟨ended, kept, hframes, hended, hkept⟩ := List.map_eq_append_iff.mp hnames
      have hcloses := frames_closes hframes fun f hf => hsolid f (by simp [hframes, hf])
      refine ⟨ended, kept, hframes, hkept.trans hafter.symm, Or.inl ?_⟩
      rw [Call.events_eq, hinferred, ← hcloses, hended, List.map_append]
      rfl

/-! ## The line of a frame -/

/-- **Frames and start tags.** Each frame stands for an element that has been open
since a start tag, and has the line to which the text before this tag leads. -/
theorem frame_since (calls : List Call) :
    ∀ inner f outer, (Nest.run {} (events calls)).frames = inner ++ f :: outer →
      ∃ before, OpenSince before f.name (outer.map Frame.name) calls ∧
        f.line = 1 + newlinesIn (textOf (events before)) := by
  induction calls using List.reverseRecOn with
  | nil => intro inner f outer h; simp [events, run, Nest.run] at h
  | append_singleton calls c ih =>
    intro inner f outer h
    have hcoupled := coupled_run calls coupled_init
    obtain ⟨ended, kept, hframes, hkept, hafter⟩ := frames_call c hcoupled
    -- a frame that was there before: the call leaves its element as it is
    have hold : ∀ inner, kept = inner ++ f :: outer →
        ∃ before, OpenSince before f.name (outer.map Frame.name) (calls ++ [c]) ∧
          f.line = 1 + newlinesIn (textOf (events before)) := by
      rintro inner rfl
      obtain ⟨before, hsince, hline⟩ := ih (ended ++ inner) f outer
        (hframes.trans (List.append_assoc ended inner _).symm)
      refine ⟨before, hsince.snoc ⟨inner.map Frame.name, ?_⟩, hline⟩
      rw [← hkept]
      simp
    rw [events, run_append, Nest.run_append] at h
    simp only [run, List.append_nil] at h
    rcases hafter with hafter | ⟨name, attributes, rfl, hafter⟩
    · exact hold inner (hafter.symm.trans h)
    · rw [hafter] at h
      cases inner with
      | cons g inner => exact hold inner (List.cons.inj h).2
      | nil =>
        -- the frame that the call itself put there
        obtain ⟨rfl, rfl⟩ := List.cons.inj h
        refine ⟨calls, ⟨attributes, [], rfl, ?_, by simp⟩, Nest.line_run {} (events calls)⟩
        have hnames := (coupled_run (calls ++ [.start name attributes]) coupled_init).names
        rw [run_append, Nest.run_append] at hnames
        simp only [run, List.append_nil] at hnames
        rw [← hnames, hafter]
        rfl

/-! ## The two readers -/

/-- The nesting check with a source that may fail. A failure is caught and adds an
issue to those noted so far; what is open is reported in any case. -/
def nestingAtWork (path : String) (acts : List Act) : List Issue :=
  let (outcome, reached) := (nestCallbacks.work acts).run ⟨[], ({}, [])⟩
  let (nest, found) := reached.state
  let noted := found.map (fun (stray, line) => stray.issue path line)
  let noted := match outcome with
    | .ok _ => noted
    | .error failure => noted ++ [failureIssue path nest.line failure]
  noted ++ nest.frames.reverse.map (Frame.issue path)

/-- The search for usages with a source that may fail. A failure is caught. -/
def usagesAtWork (path : String) (acts : List Act) : List Usage :=
  let (_, reached) := ((usageCallbacks path).work acts).run ⟨[], (1, [])⟩
  reached.state.2

theorem nestingAtWork_eq (path : String) (calls : List Call) (failure : Failure)
    (more : List Act) :
    nestingAtWork path (calls.map .take ++ .fail failure :: more) =
      issues path ⟨calls, some failure⟩ := by
  simp only [nestingAtWork, Callbacks.work_failing, feed_nestCallbacks]
  rfl

theorem usagesAtWork_eq (path : String) (calls : List Call) (failure : Failure)
    (more : List Act) :
    usagesAtWork path (calls.map .take ++ .fail failure :: more) = usages path ⟨calls, none⟩ := by
  simp only [usagesAtWork, Callbacks.work_failing]
  exact (feed_usageCallbacks path calls none).2

/-! ## What a failure costs -/

theorem rule_of_mem_strayIssues {path : String} {calls : List Call} {i : Issue}
    (h : i ∈ strayIssues path calls) :
    i.rule = Rule.tagUnexpectedClose ∨ i.rule = Rule.tagMismatch := by
  obtain ⟨⟨stray, line⟩, -, rfl⟩ := List.mem_map.mp h
  cases stray with
  | unexpected name => exact Or.inl rfl
  | mismatched expected name => exact Or.inr rfl

/-- **A failure loses nothing.** Let a source fail behind `calls`. The check then
answers with the issues of the tags in `calls`, one issue for the failure on the
line reached, and one for each element that is open behind `calls`, the outermost
first, on the line of its start tag; without the failure it answers with the same
issues but that one. The search for usages finds those of `calls` as if nothing
had happened. So it is for the two readers at work too, whatever the source would
have done behind the failure. -/
theorem failure_adds_one_issue (path : String) (calls : List Call) (failure : Failure) :
    ∃ (frames : List Frame) (parseIssue : Issue),
      frames.map Frame.name = openAfter [] calls ∧
      (∀ inner f outer, frames = inner ++ f :: outer →
        ∃ before, OpenSince before f.name (outer.map Frame.name) calls ∧
          f.line = 1 + newlinesIn (textOf (events before))) ∧
      parseIssue =
        { message := if failure.text = "" then failure.kind else failure.text
          path, line := 1 + newlinesIn (textOf (events calls)), column := 0
          severity := .error, rule := Rule.markupParseError, source } ∧
      (∀ i ∈ strayIssues path calls,
        i.rule = Rule.tagUnexpectedClose ∨ i.rule = Rule.tagMismatch) ∧
      (checkReading path ⟨calls, none⟩).result =
        .ok (strayIssues path calls ++ frames.reverse.map (Frame.issue path)) ∧
      (checkReading path ⟨calls, some failure⟩).result =
        .ok (strayIssues path calls ++ parseIssue :: frames.reverse.map (Frame.issue path)) ∧
      usages path ⟨calls, some failure⟩ = usages path ⟨calls, none⟩ ∧
      ∀ more : List Act,
        let acts := calls.map .take ++ .fail failure :: more
        nestingAtWork path acts =
          strayIssues path calls ++ parseIssue :: frames.reverse.map (Frame.issue path) ∧
        usagesAtWork path acts = usages path ⟨calls, none⟩ := by
  have hline : (Nest.run {} (events calls)).line = 1 + newlinesIn (textOf (events calls)) :=
    Nest.line_run {} (events calls)
  have hfailed : issues path ⟨calls, some failure⟩ =
      strayIssues path calls ++ failureIssue path (Nest.run {} (events calls)).line failure ::
        (Nest.run {} (events calls)).frames.reverse.map (Frame.issue path) := by
    rw [issues_eq]
    simp
  have hread : issues path ⟨calls, none⟩ =
      strayIssues path calls ++
        (Nest.run {} (events calls)).frames.reverse.map (Frame.issue path) := by
    rw [issues_eq]
    simp
  refine ⟨(Nest.run {} (events calls)).frames, failureIssue path _ failure,
    (coupled_run calls coupled_init).names, frame_since calls, ?_,
    fun i => rule_of_mem_strayIssues, congrArg Except.ok hread, congrArg Except.ok hfailed, rfl,
    fun more => ⟨?_, usagesAtWork_eq path calls failure more⟩⟩
  · rw [hline]
    rfl
  · rw [nestingAtWork_eq, hfailed]

end SiteAudit.Markup
