import Mathlib.Data.List.Chain
import SiteAudit.Proofs.Tag.Inference

/-!
# What the list of open elements can look like

`WellOpen` is the invariant of the open elements: none of them is void, and no
element stands right inside one that its own start would have ended. It is what
the inference rests on: the start of an element needs to look at the innermost
elements only, since further out nothing is left that it could have ended and
did not.

* `wellOpen_step`, `wellOpen_run`: every call, hence every run, keeps it.
* `reached_iff_wellOpen`: nothing more can be said, for every list that fulfils
  it is open after some calls.
* `finish_cuts`: an end tag leaves the list as it is, or cuts it right outside
  the innermost element of its name.
-/
namespace SiteAudit.Tag

/-- The open elements, the innermost first, as calls can leave them. -/
structure WellOpen (opened : OpenElements) : Prop where
  solid : ∀ e ∈ opened, isVoid e = false
  /-- The start of an element would have ended the element around it, if it could. -/
  apart : opened.IsChain (fun child parent => parent ∉ impliedCloses child)

theorem wellOpen_nil : WellOpen [] := ⟨by simp, .nil⟩

/-- Ending elements from the innermost on keeps what holds of the others. -/
theorem WellOpen.outer {inner outer : OpenElements} (h : WellOpen (inner ++ outer)) :
    WellOpen outer where
  solid e he := h.solid e (List.mem_append_right inner he)
  apart := h.apart.suffix (List.suffix_append inner outer)

theorem not_mem_of_impliedRun_nil {name e : String} {more : OpenElements}
    (h : impliedRun name (e :: more) = []) : e ∉ impliedCloses name := by
  intro he
  rw [impliedRun, List.takeWhile_cons_of_pos (List.contains_iff_mem.mpr he)] at h
  cases h

theorem WellOpen.cons {name : String} {opened : OpenElements} (h : WellOpen opened)
    (hv : isVoid name = false) (hr : impliedRun name opened = []) : WellOpen (name :: opened) where
  solid e he := by
    rcases List.mem_cons.mp he with rfl | he
    · exact hv
    · exact h.solid e he
  apart := by
    cases opened with
    | nil => exact .singleton name
    | cons e more => exact .cons_cons (not_mem_of_impliedRun_nil hr) h.apart

/-- **One call** keeps the invariant. The start of an element ends elements until
the next is none that it could end, and then stands right inside that one. -/
theorem wellOpen_step {opened : OpenElements} (c : Call) (h : WellOpen opened) :
    WellOpen (c.after opened) := by
  have hstep := c.step opened
  generalize c.inferred opened = ended at hstep
  generalize c.after opened = after at hstep ⊢
  cases hstep with
  | start name attributes ended rest he hr =>
    have hrest : WellOpen rest := h.outer
    cases hv : isVoid name with
    | true => simpa [hv] using hrest
    | false => simpa [hv] using hrest.cons hv hr
  | finish name ended outer hn ho =>
    rw [List.append_cons] at h
    exact h.outer
  | stray name opened hend => exact h
  | data text opened => exact h

theorem wellOpen_run {opened : OpenElements} (calls : List Call) (h : WellOpen opened) :
    WellOpen (openAfter opened calls) := by
  induction calls generalizing opened with
  | nil => exact h
  | cons c more ih => exact ih (wellOpen_step c h)

/-! ## Every such list is reached -/

/-- The start tags of a list of elements, the outermost first. -/
def startTags (opened : OpenElements) : List Call := opened.reverse.map (Call.start · [])

theorem impliedRun_nil_of_apart {name : String} {opened : OpenElements}
    (h : (name :: opened).IsChain (fun child parent => parent ∉ impliedCloses child)) :
    impliedRun name opened = [] := by
  cases opened with
  | nil => rfl
  | cons e more =>
    have he : e ∉ impliedCloses name := (List.isChain_cons_cons.mp h).1
    exact List.takeWhile_cons_of_neg (by simpa using he)

/-- Start tags alone open such a list, for none of them ends an element. -/
theorem openAfter_startTags {opened : OpenElements} (h : WellOpen opened) :
    openAfter [] (startTags opened) = opened := by
  induction opened with
  | nil => rfl
  | cons name outer ih =>
    have houter : WellOpen outer := @WellOpen.outer [name] outer h
    have hv : isVoid name = false := h.solid name (List.mem_cons_self ..)
    have hopen := ih houter
    unfold startTags at hopen ⊢
    rw [List.reverse_cons, List.map_append, openAfter_append, hopen]
    simp [openAfter, Call.after, impliedRun_nil_of_apart h.apart, hv]

theorem reached_iff_wellOpen (opened : OpenElements) :
    (∃ calls, openAfter [] calls = opened) ↔ WellOpen opened := by
  constructor
  · rintro ⟨calls, rfl⟩
    exact wellOpen_run calls wellOpen_nil
  · intro h
    exact ⟨startTags opened, openAfter_startTags h⟩

/-! ## End tags -/

/-- **An end tag** that ends nothing leaves all elements open; any other ends the
innermost element of its name and all inside it. -/
theorem finish_cuts (name : String) (opened : OpenElements) :
    (EndsNothing name opened ∧ (Call.finish name).after opened = opened) ∨
      ∃ inner outer, opened = inner ++ name :: outer ∧ name ∉ inner ∧
        (∀ e ∈ inner, hasOptionalEnd e = true) ∧ (Call.finish name).after opened = outer := by
  have hstep := (Call.finish name).step opened
  generalize (Call.finish name).inferred opened = ended at hstep
  generalize (Call.finish name).after opened = after at hstep ⊢
  cases hstep with
  | finish _ _ _ hn ho => exact Or.inr ⟨ended, after, rfl, hn, ho, rfl⟩
  | stray _ _ hend => exact Or.inl ⟨endsElement_eq_false_iff.mp hend, rfl⟩

theorem wellOpen_iff {opened : OpenElements} :
    WellOpen opened ↔ (∀ e ∈ opened, isVoid e = false) ∧
      ∀ inner child parent outer, opened = inner ++ child :: parent :: outer →
        parent ∉ impliedCloses child := by
  constructor
  · intro h
    have hapart := List.isChain_iff_forall_rel_of_append_cons_cons.mp h.apart
    exact ⟨h.solid, fun inner child parent outer hsplit => hapart hsplit⟩
  · rintro ⟨hsolid, hapart⟩
    refine ⟨hsolid, List.isChain_iff_forall_rel_of_append_cons_cons.mpr ?_⟩
    intro child parent inner outer hsplit
    exact hapart inner child parent outer hsplit

theorem impliedCloses_block {name : String} (h : name ∈ blockElements) :
    impliedCloses name = ["p"] := by
  unfold impliedCloses
  rw [if_pos (List.contains_iff_mem.mpr h)]

/-- **The open elements.** A list of elements is open after some calls exactly
when none of them is void and none stands right inside an element that its start
ends; so no list item stands right inside a list item, no block right inside a
paragraph, and no cell right inside a cell that it ends. From every list, an end
tag goes on with the whole of it or with what is outside the innermost element of
its name. -/
theorem open_elements_kept_apart (opened : OpenElements) :
    ((∃ calls, openAfter [] calls = opened) ↔
      (∀ e ∈ opened, isVoid e = false) ∧
      ∀ inner child parent outer, opened = inner ++ child :: parent :: outer →
        parent ∉ impliedCloses child) ∧
    ((∃ calls, openAfter [] calls = opened) →
      ∀ inner child parent outer, opened = inner ++ child :: parent :: outer →
        (child = "li" → parent ≠ "li") ∧ (child ∈ blockElements → parent ≠ "p") ∧
        (child = "td" → parent ≠ "td" ∧ parent ≠ "th") ∧ (child = "th" → parent ≠ "th")) ∧
    ∀ name, (EndsNothing name opened ∧ (Call.finish name).after opened = opened) ∨
      ∃ inner outer, opened = inner ++ name :: outer ∧ name ∉ inner ∧
        (∀ e ∈ inner, hasOptionalEnd e = true) ∧ (Call.finish name).after opened = outer := by
  have hreached := (reached_iff_wellOpen opened).trans wellOpen_iff
  refine ⟨hreached, ?_, fun name => finish_cuts name opened⟩
  intro hcalls inner child parent outer hsplit
  have hparent : parent ∉ impliedCloses child :=
    (hreached.mp hcalls).2 inner child parent outer hsplit
  refine ⟨?_, ?_, ?_, ?_⟩
  · rintro rfl rfl
    exact hparent (by decide)
  · rintro hblock rfl
    rw [impliedCloses_block hblock] at hparent
    exact hparent (List.mem_singleton.mpr rfl)
  · rintro rfl
    constructor
    · rintro rfl
      exact hparent (by decide)
    · rintro rfl
      exact hparent (by decide)
  · rintro rfl rfl
    exact hparent (by decide)

end SiteAudit.Tag
