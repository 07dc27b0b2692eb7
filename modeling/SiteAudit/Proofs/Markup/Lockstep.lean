import SiteAudit.Markup.Nesting
import SiteAudit.Proofs.Tag.Inference

/-!
# The frames of the nesting check follow the open elements

Two lists are kept apart: the open elements of the event source (`openAfter`)
and the frames of the nesting check (`Nest.frames`). The check sees events
only, never the other list. `Coupled` says that both hold the same names and
that none of them is void; the second half is needed because a void end tag
is passed on by the source and ignored by the check.

* `coupled_closes`: closes from the top of the open elements are no faults.
* `coupled_stray`: an end tag that ends nothing is one fault and moves nothing.
* `coupled_step`, `coupled_run`: every call, hence every run, keeps `Coupled`.
* `strays_call`: the faults of a call can be told from the open elements alone.
-/
namespace SiteAudit.Markup

open Tag

/-! ## Runs of the check -/

theorem Nest.run_append (n : Nest) (a b : List Event) : n.run (a ++ b) = (n.run a).run b := by
  induction a generalizing n with
  | nil => rfl
  | cons e more ih => exact ih (n.after e)

theorem Nest.strays_append (n : Nest) (a b : List Event) :
    n.strays (a ++ b) = n.strays a ++ (n.run a).strays b := by
  induction a generalizing n with
  | nil => rfl
  | cons e more ih =>
    simp only [List.cons_append, Nest.strays, Nest.run]
    rw [ih (n.after e), List.append_assoc]

theorem Nest.close_top {n : Nest} {name : String} {line : Nat} {frames : List Frame}
    (hv : isVoid name = false) (hf : n.frames = ⟨name, line⟩ :: frames) :
    n.stray? (.closed name) = none ∧ (n.after (.closed name)).frames = frames := by
  simp [Nest.stray?, Nest.after, hv, hf]

/-! ## Coupling -/

/-- The frames hold the names of the open elements, and none of them is void. -/
structure Coupled (opened : OpenElements) (n : Nest) : Prop where
  names : n.frames.map Frame.name = opened
  solid : ∀ e ∈ opened, isVoid e = false

theorem coupled_init : Coupled [] {} := ⟨rfl, by simp⟩

theorem Coupled.top {e : String} {rest : OpenElements} {n : Nest} (h : Coupled (e :: rest) n) :
    ∃ line frames, n.frames = ⟨e, line⟩ :: frames ∧ frames.map Frame.name = rest ∧
      isVoid e = false := by
  obtain ⟨hnames, hsolid⟩ := h
  obtain ⟨f, frames, hf, rfl, rfl⟩ := List.map_eq_cons_iff.mp hnames
  exact ⟨f.line, frames, hf, rfl, hsolid _ (List.mem_cons_self ..)⟩

theorem coupled_close {e : String} {rest : OpenElements} {n : Nest} (h : Coupled (e :: rest) n) :
    n.stray? (.closed e) = none ∧ Coupled rest (n.after (.closed e)) := by
  obtain ⟨line, frames, hf, hrest, hv⟩ := h.top
  obtain ⟨hnone, hafter⟩ := Nest.close_top hv hf
  refine ⟨hnone, ?_, ?_⟩
  · rw [hafter, hrest]
  · exact fun x hx => h.solid x (List.mem_cons_of_mem _ hx)

theorem coupled_closes {ended : List String} {rest : OpenElements} {n : Nest}
    (h : Coupled (ended ++ rest) n) :
    n.strays (ended.map .closed) = [] ∧ Coupled rest (n.run (ended.map .closed)) := by
  induction ended generalizing n with
  | nil => exact ⟨rfl, h⟩
  | cons e more ih =>
    obtain ⟨hnone, hnext⟩ := coupled_close h
    obtain ⟨hstrays, hrest⟩ := ih hnext
    simp only [List.map_cons, Nest.strays, Nest.run, hnone, hstrays]
    exact ⟨rfl, hrest⟩

theorem coupled_open {name : String} {rest : OpenElements} {n : Nest}
    (attributes : List (String × String)) (h : Coupled rest n) :
    Coupled (if isVoid name then rest else name :: rest) (n.after (.opened name attributes)) := by
  cases hv : isVoid name with
  | true => simpa [Nest.after, hv] using h
  | false =>
    refine ⟨by simp [Nest.after, hv, h.names], ?_⟩
    intro e he
    rcases List.mem_cons.mp he with rfl | he
    · exact hv
    · exact h.solid e he

/-- The fault that an end tag shows where it ends nothing: with nothing open
it is unexpected, else it does not fit the innermost element. -/
def strayOf (name : String) : OpenElements → Stray
  | [] => .unexpected name
  | top :: _ => .mismatched top name

theorem top_ne_of_stray {name top : String} {rest : OpenElements}
    (h : endsElement name (top :: rest) = false) : top ≠ name := by
  rintro rfl
  rw [endsElement_top] at h
  cases h

/-- An end tag that ends nothing is one fault, unless it is void; the frames
stay as they are. -/
theorem coupled_stray {name : String} {opened : OpenElements} {n : Nest} (h : Coupled opened n)
    (hend : endsElement name opened = false) :
    n.stray? (.closed name) = (if isVoid name then none else some (strayOf name opened)) ∧
      n.after (.closed name) = n := by
  cases hv : isVoid name with
  | true => simp [Nest.stray?, Nest.after, hv]
  | false =>
    cases opened with
    | nil =>
      have hf : n.frames = [] := List.map_eq_nil_iff.mp h.names
      simp [Nest.stray?, Nest.after, hv, hf, strayOf]
    | cons top rest =>
      obtain ⟨line, frames, hf, -, -⟩ := h.top
      have hne := top_ne_of_stray hend
      simp [Nest.stray?, Nest.after, hv, hf, strayOf, hne]

/-- **One call.** A call keeps the two lists coupled. The events of a call are
closes from the top, which leave `rest`, and the event of the call itself. -/
theorem coupled_step {opened : OpenElements} {n : Nest} (c : Call) (h : Coupled opened n) :
    Coupled (c.after opened) (n.run (c.events opened)) := by
  rw [Call.events_eq, Nest.run_append]
  have hstep := c.step opened
  generalize c.inferred opened = ended at hstep ⊢
  generalize c.after opened = after at hstep ⊢
  cases hstep with
  | start name attributes ended rest he hr =>
    exact coupled_open (attributes.foldl keepFirst []) (coupled_closes h).2
  | finish name ended outer hn ho => exact (coupled_close (coupled_closes h).2).2
  | stray name opened hend =>
    simp only [List.map_nil, Nest.run, Call.literal, (coupled_stray h hend).2]
    exact h
  | data text opened => exact ⟨h.names, h.solid⟩

theorem coupled_run {opened : OpenElements} {n : Nest} (calls : List Call)
    (h : Coupled opened n) : Coupled (openAfter opened calls) (n.run (run opened calls)) := by
  induction calls generalizing opened n with
  | nil => exact h
  | cons c more ih =>
    simp only [run, openAfter, Nest.run_append]
    exact ih (coupled_step c h)

/-! ## The faults that a call brings -/

/-- The faults of a call, by the open elements alone: an end tag that ends
nothing has one, all else has none. -/
def faults (opened : OpenElements) : Call → List Stray
  | .finish name => if endsElement name opened || isVoid name then [] else [strayOf name opened]
  | _ => []

/-- The inferred closes of a call bring no fault, and its own event brings the
faults that the open elements foretell, on the line of the call. -/
theorem strays_call {opened : OpenElements} {n : Nest} (c : Call) (h : Coupled opened n) :
    n.strays (c.events opened) = (faults opened c).map (·, n.line) := by
  rw [Call.events_eq, Nest.strays_append]
  have hstep := c.step opened
  generalize c.inferred opened = ended at hstep ⊢
  generalize c.after opened = after at hstep ⊢
  cases hstep with
  | start name attributes ended rest he hr =>
    rw [(coupled_closes h).1]
    rfl
  | finish name ended outer hn ho =>
    obtain ⟨hnone, hrest⟩ := coupled_closes h
    have hends := endsElement_of_optional hn ho after
    rw [hnone]
    simp [Nest.strays, Call.literal, (coupled_close hrest).1, faults, hends]
  | stray name opened hend =>
    simp only [List.map_nil, Nest.run, Nest.strays, Call.literal, (coupled_stray h hend).1]
    cases hv : isVoid name <;> simp [faults, hend, hv]
  | data text opened => rfl

/-- The faults of the tags in a sequence of calls, put into words. -/
def strayIssues (path : String) (calls : List Call) : List Issue :=
  (Nest.strays {} (events calls)).map (fun (stray, line) => stray.issue path line)

theorem strayIssues_snoc (path : String) (calls : List Call) (c : Call) :
    strayIssues path (calls ++ [c]) = strayIssues path calls ++
      (faults (openAfter [] calls) c).map (Stray.issue path (Nest.run {} (events calls)).line) := by
  have hc := strays_call c (coupled_run calls coupled_init)
  unfold strayIssues events at *
  rw [run_append, Nest.strays_append, List.map_append]
  simp only [run, List.append_nil, hc, List.map_map]
  rfl

theorem issues_eq (path : String) (reading : Reading) :
    issues path reading = strayIssues path reading.calls ++
      (reading.failure.map
        (failureIssue path (Nest.run {} (events reading.calls)).line)).toList ++
      (Nest.run {} (events reading.calls)).frames.reverse.map (Frame.issue path) := rfl

theorem Stray.rule_issue (path : String) (line : Nat) (stray : Stray) :
    (stray.issue path line).rule ≠ Rule.tagUnclosed := by
  cases stray with
  | unexpected name => exact (by decide : Rule.tagUnexpectedClose ≠ Rule.tagUnclosed)
  | mismatched expected name => exact (by decide : Rule.tagMismatch ≠ Rule.tagUnclosed)

theorem rule_failureIssue (path : String) (line : Nat) (f : Failure) :
    (failureIssue path line f).rule ≠ Rule.tagUnclosed :=
  (by decide : Rule.markupParseError ≠ Rule.tagUnclosed)

theorem unclosed_issues (path : String) (reading : Reading) :
    (issues path reading).filter (fun i => i.rule == Rule.tagUnclosed) =
      (Nest.run {} (events reading.calls)).frames.reverse.map (Frame.issue path) := by
  have hearlier : ∀ i ∈ strayIssues path reading.calls ++ (reading.failure.map
      (failureIssue path (Nest.run {} (events reading.calls)).line)).toList,
      ¬(i.rule == Rule.tagUnclosed) = true := by
    intro i hi
    simp only [strayIssues, List.mem_append, List.mem_map, Prod.exists, Option.mem_toList,
      Option.map_eq_some_iff] at hi
    rcases hi with ⟨stray, line, -, rfl⟩ | ⟨f, -, rfl⟩
    · simpa using Stray.rule_issue path line stray
    · simpa using rule_failureIssue path _ f
  rw [issues_eq, List.filter_append, List.filter_eq_nil_iff.mpr hearlier]
  exact List.filter_eq_self.mpr (by simp [Frame.issue, issueAt])

theorem strayOf_rule (path : String) (line : Nat) (name : String) (opened : OpenElements) :
    ((strayOf name opened).issue path line).rule =
      if opened = [] then Rule.tagUnexpectedClose else Rule.tagMismatch := by
  cases opened <;> rfl

/-- **Lockstep.** After every sequence of calls the frames name the open
elements. So each inferred close meets its own frame on top and is no fault; a
call that is no end tag brings no issue; an end tag brings one issue exactly
when it is not void and ends nothing, and none otherwise; and the unclosed
elements that are reported are those open at the end, the outermost first. -/
theorem frames_follow_open_elements (path : String) (calls : List Call) :
    let opened := openAfter [] calls
    let nest := Nest.run {} (events calls)
    nest.frames.map Frame.name = opened ∧
    (∀ (c : Call) (ended : List String) (name : String) (more : List String),
      c.inferred opened = ended ++ name :: more →
        (nest.run (ended.map .closed)).frames.head?.map Frame.name = some name ∧
        (nest.run (ended.map .closed)).stray? (.closed name) = none) ∧
    (∀ c : Call, (∀ name, c ≠ .finish name) →
      strayIssues path (calls ++ [c]) = strayIssues path calls) ∧
    (∀ name, isVoid name = false ∧ EndsNothing name opened →
      ∃ i, strayIssues path (calls ++ [.finish name]) = strayIssues path calls ++ [i] ∧
        i.line = nest.line ∧
        i.rule = if opened = [] then Rule.tagUnexpectedClose else Rule.tagMismatch) ∧
    (∀ name, ¬(isVoid name = false ∧ EndsNothing name opened) →
      strayIssues path (calls ++ [.finish name]) = strayIssues path calls) ∧
    ∀ failure,
      issues path ⟨calls, failure⟩ = strayIssues path calls ++
        (failure.map (failureIssue path nest.line)).toList ++
        nest.frames.reverse.map (Frame.issue path) ∧
      (issues path ⟨calls, failure⟩).filter (fun i => i.rule == Rule.tagUnclosed) =
        nest.frames.reverse.map (Frame.issue path) := by
  intro opened nest
  have hcoupled : Coupled opened nest := coupled_run calls coupled_init
  refine ⟨hcoupled.names, ?_, ?_, ?_, ?_, fun failure =>
    ⟨issues_eq path ⟨calls, failure⟩, unclosed_issues path ⟨calls, failure⟩⟩⟩
  · intro c ended name more h
    obtain ⟨rest, hopened, -⟩ := (c.step opened).replay
    rw [h, List.append_assoc] at hopened
    rw [hopened] at hcoupled
    obtain ⟨-, hthere⟩ := coupled_closes hcoupled
    obtain ⟨line, frames, hf, -⟩ := hthere.top
    exact ⟨by rw [hf]; rfl, (coupled_close hthere).1⟩
  · intro c hc
    rw [strayIssues_snoc]
    cases c with
    | start name attributes => exact List.append_nil _
    | finish name => exact absurd rfl (hc name)
    | data text => exact List.append_nil _
  · rintro name ⟨hv, hends⟩
    have hend := endsElement_eq_false_iff.mpr hends
    refine ⟨(strayOf name opened).issue path nest.line, ?_, ?_, strayOf_rule ..⟩
    · rw [strayIssues_snoc]
      simp [faults, opened, nest, hend, hv]
    · cases strayOf name opened <;> rfl
  · intro name h
    have hnone : faults opened (.finish name) = [] := by
      rw [← endsElement_eq_false_iff] at h
      cases hv : isVoid name <;> simp_all [faults]
    rw [strayIssues_snoc, hnone]
    exact List.append_nil _

end SiteAudit.Markup
