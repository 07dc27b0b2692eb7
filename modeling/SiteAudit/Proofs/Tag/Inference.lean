import SiteAudit.Tag.Event

/-!
# What one call does, and the end tags that are filled in

A call ends some of the innermost open elements (`Call.inferred`) and then
adds the event that it stands for (`Call.literal`). `CallStep` says all that a
call can do to the open elements, guards included; `Call.step` is the one
place where the definitions are opened.

* `run_eq_marked`: the events of a run are the literal events with inferred
  closes between them (`marked` keeps the two apart).
* `literals_marked`: without the inferred closes a run is the calls as written.
* `inferred_before`: where an inferred close may stand.
* `run_replay`: a run that reads its own events changes nothing, whatever is
  open at its start.
-/
namespace SiteAudit.Tag

/-! ## Attributes -/

/-- Keeps an attribute unless one of its name was kept before. -/
def keepFirst (kept : List (String × String)) (a : String × Option String) :
    List (String × String) :=
  if a.1 ∈ kept.map Prod.fst then kept else kept ++ [(a.1, a.2.getD "")]

theorem foldl_keepFirst (attributes : List (String × Option String)) :
    ∀ kept, attributes.foldl keepFirst kept =
      kept ++ (distinctAttributes attributes).filter (fun b => b.1 ∉ kept.map Prod.fst) := by
  induction attributes with
  | nil => intro kept; simp [distinctAttributes]
  | cons a more ih =>
    intro kept
    rw [List.foldl_cons, ih, distinctAttributes, keepFirst]
    by_cases hk : a.1 ∈ kept.map Prod.fst
    · rw [if_pos hk, List.filter_cons_of_neg (by simpa using hk), List.filter_filter]
      congr 1
      apply List.filter_congr
      intro b _
      by_cases hb : b.1 = a.1
      · simp [hb, hk]
      · simp [hb]
    · rw [if_neg hk, List.filter_cons_of_pos (by simpa using hk), List.filter_filter,
        List.append_assoc, List.singleton_append]
      congr 2
      apply List.filter_congr
      intro b _
      rw [Bool.eq_iff_iff]
      simp [and_comm]

theorem distinctAttributes_eq_foldl (attributes : List (String × Option String)) :
    distinctAttributes attributes = attributes.foldl keepFirst [] := by
  rw [foldl_keepFirst, List.nil_append]
  exact (List.filter_eq_self.mpr (by simp)).symm

theorem distinctAttributes_nodup (attributes : List (String × Option String)) :
    ((distinctAttributes attributes).map Prod.fst).Nodup := by
  induction attributes with
  | nil => exact List.nodup_nil
  | cons a more ih =>
    simp only [distinctAttributes, List.map_cons, List.nodup_cons]
    refine ⟨by simp, ih.sublist ?_⟩
    exact List.filter_sublist.map Prod.fst

theorem distinctAttributes_of_nodup (attributes : List (String × String))
    (h : (attributes.map Prod.fst).Nodup) :
    distinctAttributes (attributes.map fun a => (a.1, some a.2)) = attributes := by
  induction attributes with
  | nil => rfl
  | cons a more ih =>
    simp only [List.map_cons, List.nodup_cons] at h
    simp only [List.map_cons, distinctAttributes, ih h.2, Option.getD_some]
    congr 1
    apply List.filter_eq_self.mpr
    intro b hb
    simp only [bne_iff_ne, ne_eq]
    intro heq
    exact h.1 (heq ▸ List.mem_map_of_mem hb)

/-! ## One call -/

/-- The elements that a call ends before its own event, the innermost first. -/
def Call.inferred (opened : OpenElements) : Call → List String
  | .start name _ => impliedRun name opened
  | .finish name => if endsElement name opened then inside name opened else []
  | .data _ => []

/-- The event that a call stands for. -/
def Call.literal : Call → Event
  | .start name attributes => .opened name (attributes.foldl keepFirst [])
  | .finish name => .closed name
  | .data text => .text text

theorem Call.events_eq (opened : OpenElements) (c : Call) :
    c.events opened = (c.inferred opened).map .closed ++ [c.literal] := by
  cases c with
  | start name attributes =>
    simp only [Call.events, Call.inferred, Call.literal, distinctAttributes_eq_foldl]
  | finish name =>
    simp only [Call.events, Call.inferred, Call.literal]
    split <;> rfl
  | data text => rfl

/-- `CallStep opened c ended after`: with `opened` open, `c` ends the elements
`ended` without an end tag of their own and leaves `after` open. -/
inductive CallStep : OpenElements → Call → List String → OpenElements → Prop where
  | start (name : String) (attributes : List (String × Option String)) (ended : List String)
      (rest : OpenElements) (he : ∀ e ∈ ended, e ∈ impliedCloses name)
      (hr : impliedRun name rest = []) :
      CallStep (ended ++ rest) (.start name attributes) ended
        (if isVoid name then rest else name :: rest)
  | finish (name : String) (ended : List String) (outer : OpenElements) (hn : name ∉ ended)
      (ho : ∀ e ∈ ended, hasOptionalEnd e = true) :
      CallStep (ended ++ name :: outer) (.finish name) ended outer
  | stray (name : String) (opened : OpenElements) (h : endsElement name opened = false) :
      CallStep opened (.finish name) [] opened
  | data (text : String) (opened : OpenElements) : CallStep opened (.data text) [] opened

theorem impliedRun_append_drop (name : String) (opened : OpenElements) :
    impliedRun name opened ++ opened.drop (impliedRun name opened).length = opened :=
  List.prefix_iff_eq_append.mp (List.takeWhile_prefix _)

/-- The start of `name` ends all that it can: the next element is not one of them. -/
theorem impliedRun_drop (name : String) (opened : OpenElements) :
    impliedRun name (opened.drop (impliedRun name opened).length) = [] := by
  induction opened with
  | nil => rfl
  | cons e more ih =>
    unfold impliedRun at ih ⊢
    by_cases he : (impliedCloses name).contains e = true
    · rw [List.takeWhile_cons_of_pos he]
      exact ih
    · rw [List.takeWhile_cons_of_neg he]
      exact List.takeWhile_cons_of_neg he

theorem mem_impliedRun {name e : String} {opened : OpenElements} (h : e ∈ impliedRun name opened) :
    e ∈ impliedCloses name := by
  have hall := List.all_eq_true.mp
    (List.all_takeWhile (p := fun e => (impliedCloses name).contains e) (l := opened)) e h
  simpa using hall

theorem inside_append {name : String} {inner : List String} (h : name ∉ inner)
    (outer : OpenElements) : inside name (inner ++ name :: outer) = inner := by
  have hpos : ∀ e ∈ inner, (e != name) = true := by
    intro e he
    simp only [bne_iff_ne, ne_eq]
    rintro rfl
    exact h he
  unfold inside
  rw [List.takeWhile_append_of_pos hpos, List.takeWhile_cons_of_neg (by simp), List.append_nil]

/-- The elements inside the innermost `name` alone decide whether its end tag
ends it. -/
theorem endsElement_append {name : String} {inner : List String} (h : name ∉ inner)
    (outer : OpenElements) :
    endsElement name (inner ++ name :: outer) = inner.all hasOptionalEnd := by
  unfold endsElement
  rw [inside_append h]
  simp

theorem endsElement_of_optional {name : String} {inner : List String} (hn : name ∉ inner)
    (ho : ∀ e ∈ inner, hasOptionalEnd e = true) (outer : OpenElements) :
    endsElement name (inner ++ name :: outer) = true := by
  rw [endsElement_append hn]
  exact List.all_eq_true.mpr ho

theorem endsElement_top (name : String) (outer : OpenElements) :
    endsElement name (name :: outer) = true := by
  simp [endsElement, inside]

theorem endsElement_of_not_mem {name : String} {opened : OpenElements} (h : name ∉ opened) :
    endsElement name opened = false := by
  simp [endsElement, h]

/-- An end tag that ends nothing: no element of its name is open, or an element
inside the innermost one must have an end tag of its own. -/
def EndsNothing (name : String) (opened : OpenElements) : Prop :=
  name ∉ opened ∨ ∃ inner outer, opened = inner ++ name :: outer ∧ name ∉ inner ∧
    ∃ e ∈ inner, hasOptionalEnd e = false

theorem endsElement_eq_false_iff {name : String} {opened : OpenElements} :
    endsElement name opened = false ↔ EndsNothing name opened := by
  constructor
  · intro h
    by_cases hm : name ∈ opened
    · obtain ⟨inner, outer, rfl, hn⟩ := List.eq_append_cons_of_mem hm
      rw [endsElement_append hn, List.all_eq_false] at h
      obtain ⟨e, he, hopt⟩ := h
      exact Or.inr ⟨inner, outer, rfl, hn, e, he, by simpa using hopt⟩
    · exact Or.inl hm
  · rintro (hm | ⟨inner, outer, rfl, hn, e, he, hopt⟩)
    · exact endsElement_of_not_mem hm
    · rw [endsElement_append hn, List.all_eq_false]
      exact ⟨e, he, by simp [hopt]⟩

/-- An end tag ends the elements inside its own, where all of them may lack
theirs, and then its own. -/
theorem finish_eq {name : String} {inner : List String} (hn : name ∉ inner)
    (ho : ∀ e ∈ inner, hasOptionalEnd e = true) (outer : OpenElements) :
    (Call.finish name).inferred (inner ++ name :: outer) = inner ∧
      (Call.finish name).after (inner ++ name :: outer) = outer := by
  have hends := endsElement_of_optional hn ho outer
  have hdrop : (inner ++ name :: outer).drop (inner.length + 1) = outer := by
    rw [← List.drop_drop, List.drop_left]
    rfl
  simp [Call.inferred, Call.after, hends, inside_append hn, hdrop]

/-- **One call.** Every call takes one of the four steps. -/
theorem Call.step (opened : OpenElements) (c : Call) :
    CallStep opened c (c.inferred opened) (c.after opened) := by
  cases c with
  | start name attributes =>
    have hs := CallStep.start name attributes (impliedRun name opened) _ (fun _ => mem_impliedRun)
      (impliedRun_drop name opened)
    rw [impliedRun_append_drop] at hs
    exact hs
  | finish name =>
    cases hend : endsElement name opened with
    | false =>
      simp only [Call.inferred, Call.after, hend]
      exact CallStep.stray name opened hend
    | true =>
      simp only [endsElement, Bool.and_eq_true, List.contains_iff_mem] at hend
      obtain ⟨inner, outer, rfl, hn⟩ := List.eq_append_cons_of_mem hend.1
      rw [inside_append hn, List.all_eq_true] at hend
      obtain ⟨hinferred, hafter⟩ := finish_eq hn hend.2 outer
      rw [hinferred, hafter]
      exact CallStep.finish name inner outer hn hend.2
  | data text => exact CallStep.data text opened

/-! ## Runs -/

theorem openAfter_append (opened : OpenElements) (a b : List Call) :
    openAfter opened (a ++ b) = openAfter (openAfter opened a) b := by
  induction a generalizing opened with
  | nil => rfl
  | cons c more ih => exact ih (c.after opened)

theorem run_append (opened : OpenElements) (a b : List Call) :
    run opened (a ++ b) = run opened a ++ run (openAfter opened a) b := by
  induction a generalizing opened with
  | nil => rfl
  | cons c more ih =>
    simp only [List.cons_append, run, openAfter]
    rw [ih (c.after opened), List.append_assoc]

/-- An event that knows whether it was written or inferred. -/
structure Marked where
  event : Event
  inferred : Bool
  deriving DecidableEq, Repr

/-- The close of an element whose end tag is inferred. -/
def Marked.ending (name : String) : Marked := ⟨.closed name, true⟩

/-- An event that stands for a call. -/
def Marked.written (e : Event) : Marked := ⟨e, false⟩

/-- The events of a sequence of calls, each with its mark. -/
def marked (opened : OpenElements) : List Call → List Marked
  | [] => []
  | c :: more =>
    (c.inferred opened).map .ending ++ .written c.literal :: marked (c.after opened) more

theorem run_eq_marked (opened : OpenElements) (calls : List Call) :
    run opened calls = (marked opened calls).map Marked.event := by
  induction calls generalizing opened with
  | nil => rfl
  | cons c more ih =>
    simp only [run, marked, Call.events_eq, ih (c.after opened), List.map_append, List.map_map,
      List.map_cons, List.append_assoc, List.singleton_append]
    rfl

theorem literals_marked (opened : OpenElements) (calls : List Call) :
    ((marked opened calls).filter (fun m => !m.inferred)).map Marked.event =
      calls.map Call.literal := by
  induction calls generalizing opened with
  | nil => rfl
  | cons c more ih =>
    have hnone : ((c.inferred opened).map Marked.ending).filter (fun m => !m.inferred) = [] := by
      simp [Marked.ending]
    simp only [marked, List.filter_append, hnone, List.nil_append]
    rw [List.filter_cons_of_pos rfl, List.map_cons, ih (c.after opened)]
    rfl

theorem mem_marked (opened : OpenElements) (calls : List Call) :
    ∀ m ∈ marked opened calls, m.inferred = true → ∃ name, m = .ending name := by
  induction calls generalizing opened with
  | nil => intro m hm; cases hm
  | cons c more ih =>
    intro m hm hinf
    simp only [marked, List.mem_append, List.mem_map, List.mem_cons] at hm
    rcases hm with ⟨name, -, rfl⟩ | rfl | hm
    · exact ⟨name, rfl⟩
    · cases hinf
    · exact ih (c.after opened) m hm hinf

/-- What lets an inferred close of `name` stand in front of an event: the
event opens an element that ends `name`, or it is an end tag and `name` may
lack its own. -/
def Licenses (name : String) : Event → Prop
  | .opened o _ => name ∈ impliedCloses o
  | .closed _ => hasOptionalEnd name = true
  | .text _ => False

theorem CallStep.licensed {opened after : OpenElements} {c : Call} {ended : List String}
    (h : CallStep opened c ended after) : ∀ e ∈ ended, Licenses e c.literal := by
  cases h with
  | start name attributes ended rest he hr => exact he
  | finish name ended outer hn ho => exact ho
  | stray name opened h => simp
  | data text opened => simp

theorem written_ne_ending (e : Event) (name : String) : Marked.written e ≠ .ending name := by
  intro h
  cases h

/-- **Where closes are inferred.** Behind an inferred close come only inferred
closes until the event of a call, and that event licenses it. -/
theorem inferred_before (opened : OpenElements) (calls : List Call) (name : String) :
    ∀ before after, marked opened calls = before ++ .ending name :: after →
      ∃ (ended : List String) (e : Event) (rest : List Marked),
        after = ended.map .ending ++ .written e :: rest ∧ Licenses name e := by
  induction calls generalizing opened with
  | nil => intro before after h; simp [marked] at h
  | cons c more ih =>
    intro before after h
    rcases List.append_eq_append_iff.mp h with ⟨front, rfl, htail⟩ | ⟨back, hended, hback⟩
    · -- the close lies behind the event of `c`
      cases front with
      | nil => exact absurd (List.cons.inj htail).1 (written_ne_ending c.literal name)
      | cons m front =>
        exact ih (c.after opened) front after (List.cons.inj htail).2
    · -- the close is one of those that `c` brings
      cases back with
      | nil => exact absurd (List.cons.inj hback).1.symm (written_ne_ending c.literal name)
      | cons m back =>
        obtain ⟨rfl, rfl⟩ := List.cons.inj hback
        obtain ⟨front, ended, hsplit, -, hmap⟩ := List.map_eq_append_iff.mp hended
        obtain ⟨n, ended, rfl, hn, rfl⟩ := List.map_eq_cons_iff.mp hmap
        obtain rfl : n = name := by simpa [Marked.ending] using hn
        have hmem : n ∈ c.inferred opened := by rw [hsplit]; simp
        exact ⟨ended, c.literal, _, rfl, (c.step opened).licensed n hmem⟩

/-! ## Reading the events again -/

/-- An event read as a call. -/
def Event.call : Event → Call
  | .opened name attributes => .start name (attributes.map fun a => (a.1, some a.2))
  | .closed name => .finish name
  | .text data => .data data

theorem literal_call_literal (c : Call) : c.literal.call.literal = c.literal := by
  cases c with
  | start name attributes =>
    have h := distinctAttributes_of_nodup _ (distinctAttributes_nodup attributes)
    simp only [distinctAttributes_eq_foldl] at h
    simp only [Call.literal, Event.call, h]
  | finish name => rfl
  | data text => rfl

theorem finish_top (name : String) (outer : OpenElements) :
    (Call.finish name).inferred (name :: outer) = [] ∧
      (Call.finish name).after (name :: outer) = outer := by
  have h := finish_eq (List.not_mem_nil (a := name)) (by simp) outer
  simpa only [List.nil_append] using h

theorem run_finish_top (ended : List String) (rest : OpenElements) :
    run (ended ++ rest) (ended.map .finish) = ended.map .closed ∧
      openAfter (ended ++ rest) (ended.map .finish) = rest := by
  induction ended with
  | nil => exact ⟨rfl, rfl⟩
  | cons e more ih =>
    obtain ⟨hnone, hafter⟩ := finish_top e (more ++ rest)
    simp only [List.cons_append, List.map_cons, run, openAfter, Call.events_eq, hnone, hafter, ih]
    exact ⟨rfl, trivial⟩

/-- Once the inferred closes have been read as end tags, the call itself has
nothing left to infer. -/
theorem CallStep.replay {opened after : OpenElements} {c : Call} {ended : List String}
    (h : CallStep opened c ended after) :
    ∃ rest, opened = ended ++ rest ∧ c.literal.call.inferred rest = [] ∧
      c.literal.call.after rest = after := by
  cases h with
  | start name attributes ended rest he hr =>
    refine ⟨rest, rfl, hr, ?_⟩
    simp [Call.literal, Event.call, Call.after, hr]
  | finish name ended _ hn ho => exact ⟨name :: after, rfl, finish_top name after⟩
  | stray name opened h =>
    exact ⟨opened, rfl, by simp [Call.literal, Event.call, Call.inferred, h],
      by simp [Call.literal, Event.call, Call.after, h]⟩
  | data text opened => exact ⟨opened, rfl, rfl, rfl⟩

/-- The events of one call, read again. -/
theorem replay_call (opened : OpenElements) (c : Call) :
    run opened ((c.events opened).map Event.call) = c.events opened ∧
      openAfter opened ((c.events opened).map Event.call) = c.after opened := by
  obtain ⟨rest, hopened, hnone, hafter⟩ := (c.step opened).replay
  have hcloses := run_finish_top (c.inferred opened) rest
  have hcalls : (c.events opened).map Event.call =
      (c.inferred opened).map .finish ++ [c.literal.call] := by
    rw [Call.events_eq, List.map_append, List.map_map]
    rfl
  rw [← hopened] at hcloses
  rw [hcalls, run_append, openAfter_append, hcloses.1, hcloses.2]
  simp only [run, openAfter, Call.events_eq rest, hnone, hafter, literal_call_literal]
  rw [Call.events_eq]
  exact ⟨rfl, trivial⟩

/-- **Replay.** Reading the events of a run as calls gives the same events and
leaves the same elements open. -/
theorem run_replay (opened : OpenElements) (calls : List Call) :
    run opened ((run opened calls).map Event.call) = run opened calls ∧
      openAfter opened ((run opened calls).map Event.call) = openAfter opened calls := by
  induction calls generalizing opened with
  | nil => exact ⟨rfl, rfl⟩
  | cons c more ih =>
    obtain ⟨hrun, hopen⟩ := replay_call opened c
    obtain ⟨ihrun, ihopen⟩ := ih (c.after opened)
    simp only [run, openAfter, List.map_append]
    rw [run_append, openAfter_append, hrun, hopen, ihrun, ihopen]
    exact ⟨rfl, rfl⟩

/-! ## The inference of end tags -/

/-- **End tags are only inserted, and only once.** Without the inferred closes
the events are the calls as written; every inferred close stands, with other
such closes at most between, in front of an event that licenses it; and
reading the events again changes nothing. -/
theorem inference_inserts_closes (calls : List Call) :
    (marked [] calls).map Marked.event = events calls ∧
    ((marked [] calls).filter (fun m => !m.inferred)).map Marked.event =
      calls.map Call.literal ∧
    (∀ m ∈ marked [] calls, m.inferred = true → ∃ name, m = .ending name) ∧
    (∀ before name after, marked [] calls = before ++ .ending name :: after →
      ∃ (ended : List String) (e : Event) (rest : List Marked),
        after = ended.map .ending ++ .written e :: rest ∧
        ((∃ o attributes, e = .opened o attributes ∧ name ∈ impliedCloses o) ∨
          ∃ t, e = .closed t ∧ hasOptionalEnd name = true)) ∧
    events ((events calls).map Event.call) = events calls ∧
    openAfter [] ((events calls).map Event.call) = openAfter [] calls := by
  obtain ⟨hevents, hopen⟩ := run_replay [] calls
  refine ⟨(run_eq_marked [] calls).symm, literals_marked [] calls, mem_marked [] calls, ?_,
    hevents, hopen⟩
  intro before name after h
  obtain ⟨ended, e, rest, hafter, hlic⟩ := inferred_before [] calls name before after h
  refine ⟨ended, e, rest, hafter, ?_⟩
  cases e with
  | opened o attributes => exact Or.inl ⟨o, attributes, rfl, hlic⟩
  | closed t => exact Or.inr ⟨t, rfl, hlic⟩
  | text data => exact hlic.elim

end SiteAudit.Tag
