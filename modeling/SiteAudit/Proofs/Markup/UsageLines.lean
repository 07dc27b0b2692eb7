import SiteAudit.Markup.Usage
import SiteAudit.Proofs.Markup.Lockstep
import SiteAudit.Proofs.Tag.Callbacks

/-!
# The lines of usages and of frames

The nesting check listens to all events of a document, the search for usages to
opens and texts only. They read the document one after the other, each with a
line counter of its own. Since callbacks do not influence the events
(`Callbacks.feed_only`), both see the same opens with the same text before them,
and count the same lines.

* `feed_nestCallbacks`, `feed_usageCallbacks`: the two readers, fed call by call,
  find what `Nest.run`, `Nest.strays` and `usages` say.
* `Nest.line_run`, `usagesFrom_append`: both counters stand at the line feeds of
  the text so far.
* `usages_pairwise`: usages come in the order of their lines.
-/
namespace SiteAudit.Markup

open Tag

/-! ## Two readers -/

/-- What the nesting check keeps: its state, and the faults found so far with
their lines. -/
abbrev NestNotes := Nest × List (Stray × Nat)

def noteStray (notes : NestNotes) (e : Event) : NestNotes :=
  (notes.1.after e, notes.2 ++ ((notes.1.stray? e).map (·, notes.1.line)).toList)

/-- The callbacks of the nesting check: one for each kind of event. -/
def nestCallbacks : Callbacks NestNotes := .only Event.kinds noteStray

/-- What the search for usages keeps: its line, and the usages found so far. -/
abbrev UsageNotes := Nat × List Usage

def noteUsages (path : String) (notes : UsageNotes) : Event → UsageNotes
  | .opened _ attributes => (notes.1, notes.2 ++ tagUsages path notes.1 attributes)
  | .closed _ => notes
  | .text data => (notes.1 + newlinesIn data, notes.2)

/-- The callbacks of the search for usages: none for closes. -/
def usageCallbacks (path : String) : Callbacks UsageNotes :=
  .only [.opened, .text] (noteUsages path)

theorem foldl_noteStray (es : List Event) (n : Nest) (found : List (Stray × Nat)) :
    es.foldl noteStray (n, found) = (n.run es, found ++ n.strays es) := by
  induction es generalizing n found with
  | nil => simp [Nest.run, Nest.strays]
  | cons e more ih =>
    rw [List.foldl_cons, noteStray, ih, List.append_assoc]
    rfl

theorem feed_nestCallbacks (calls : List Call) :
    nestCallbacks.feed ⟨[], ({}, [])⟩ calls =
      ⟨openAfter [] calls, Nest.run {} (events calls), Nest.strays {} (events calls)⟩ := by
  rw [nestCallbacks, Callbacks.feed_only, select_kinds, foldl_noteStray]
  rfl

theorem foldl_noteUsages (path : String) (es : List Event) (line : Nat) (found : List Usage) :
    ((select [.opened, .text] es).foldl (noteUsages path) (line, found)).2 =
      found ++ usagesFrom path line es := by
  induction es generalizing line found with
  | nil => simp [select, usagesFrom]
  | cons e more ih =>
    cases e with
    | opened name attributes =>
      have hselect : select [.opened, .text] (.opened name attributes :: more) =
          .opened name attributes :: select [.opened, .text] more := rfl
      rw [hselect, List.foldl_cons, noteUsages, ih, usagesFrom, List.append_assoc]
    | closed name => exact ih line found
    | text data =>
      have hselect : select [.opened, .text] (.text data :: more) =
          .text data :: select [.opened, .text] more := rfl
      rw [hselect, List.foldl_cons, noteUsages, ih, usagesFrom]

theorem feed_usageCallbacks (path : String) (calls : List Call) (failure : Option Failure) :
    ((usageCallbacks path).feed ⟨[], (1, [])⟩ calls).opened = openAfter [] calls ∧
      ((usageCallbacks path).feed ⟨[], (1, [])⟩ calls).state.2 = usages path ⟨calls, failure⟩ := by
  rw [usageCallbacks, Callbacks.feed_only]
  refine ⟨rfl, ?_⟩
  simp only [foldl_noteUsages, List.nil_append, usages]

/-! ## Text before an open -/

/-- The text that a sequence of events delivers. -/
def textOf : List Event → String
  | [] => ""
  | .text data :: more => data ++ textOf more
  | _ :: more => textOf more

/-- An open with all text delivered before it. -/
structure Opening where
  name : String
  attributes : List (String × String)
  before : String
  deriving DecidableEq, Repr

/-- The opens of a sequence of events, which `before` precedes. -/
def openings (before : String) : List Event → List Opening
  | [] => []
  | .opened name attributes :: more => ⟨name, attributes, before⟩ :: openings before more
  | .closed _ :: more => openings before more
  | .text data :: more => openings (before ++ data) more

theorem openings_select (before : String) (es : List Event) :
    openings before (select [.opened, .text] es) = openings before es := by
  induction es generalizing before with
  | nil => rfl
  | cons e more ih =>
    cases e with
    | opened name attributes => exact congrArg (_ :: ·) (ih before)
    | closed name => exact ih before
    | text data => exact ih (before ++ data)

theorem newlinesIn_append (a b : String) : newlinesIn (a ++ b) = newlinesIn a + newlinesIn b := by
  simp [newlinesIn, Text.newlines]

theorem Nest.line_run (n : Nest) (es : List Event) :
    (n.run es).line = n.line + newlinesIn (textOf es) := by
  induction es generalizing n with
  | nil => rfl
  | cons e more ih =>
    rw [Nest.run, ih]
    cases e with
    | opened name attributes =>
      have hline : (n.after (.opened name attributes)).line = n.line := by
        unfold Nest.after
        dsimp only
        split <;> rfl
      rw [hline]
      rfl
    | closed name =>
      have hline : (n.after (.closed name)).line = n.line := by
        unfold Nest.after
        dsimp only
        split
        · rfl
        · split
          · rfl
          · split <;> rfl
      rw [hline]
      rfl
    | text data => rw [textOf, newlinesIn_append, ← Nat.add_assoc]; rfl

theorem usagesFrom_append (path : String) (line : Nat) (a b : List Event) :
    usagesFrom path line (a ++ b) =
      usagesFrom path line a ++ usagesFrom path (line + newlinesIn (textOf a)) b := by
  induction a generalizing line with
  | nil => rfl
  | cons e more ih =>
    cases e with
    | opened name attributes =>
      simp only [List.cons_append, usagesFrom, textOf, ih, List.append_assoc]
    | closed name => simp only [List.cons_append, usagesFrom, textOf, ih]
    | text data =>
      simp only [List.cons_append, usagesFrom, textOf, ih, newlinesIn_append, Nat.add_assoc]

/-- The usages of a document are those of its opens, each on the line to which
the text before it leads. -/
theorem usagesFrom_eq_openings (path before : String) (es : List Event) :
    usagesFrom path (1 + newlinesIn before) es =
      (openings before es).flatMap
        (fun o => tagUsages path (1 + newlinesIn o.before) o.attributes) := by
  induction es generalizing before with
  | nil => rfl
  | cons e more ih =>
    cases e with
    | opened name attributes => rw [usagesFrom, openings, List.flatMap_cons, ih]
    | closed name => exact ih before
    | text data => rw [usagesFrom, openings, ← ih, newlinesIn_append, Nat.add_assoc]

/-! ## Lines -/

theorem line_of_mem_tagUsages {path : String} {line : Nat} {attributes : List (String × String)}
    {u : Usage} (h : u ∈ tagUsages path line attributes) : u.line = line := by
  unfold tagUsages at h
  simp only [List.mem_append] at h
  rcases h with h | h
  · split at h
    · obtain ⟨w, -, rfl⟩ := List.mem_map.mp h
      rfl
    · cases h
  · split at h
    · split at h
      · cases h
      · obtain rfl := List.mem_singleton.mp h
        rfl
    · cases h

theorem le_line_of_mem_usagesFrom {path : String} {line : Nat} {es : List Event} {u : Usage}
    (h : u ∈ usagesFrom path line es) : line ≤ u.line := by
  induction es generalizing line with
  | nil => cases h
  | cons e more ih =>
    cases e with
    | opened name attributes =>
      rcases List.mem_append.mp h with h | h
      · exact Nat.le_of_eq (line_of_mem_tagUsages h).symm
      · exact ih h
    | closed name => exact ih h
    | text data => exact Nat.le_trans (Nat.le_add_right ..) (ih h)

theorem usages_pairwise (path : String) (line : Nat) (es : List Event) :
    (usagesFrom path line es).Pairwise (fun u v => u.line ≤ v.line) := by
  induction es generalizing line with
  | nil => exact List.Pairwise.nil
  | cons e more ih =>
    cases e with
    | opened name attributes =>
      refine List.pairwise_append.mpr ⟨?_, ih line, ?_⟩
      · refine List.pairwise_of_forall_mem_list fun u hu v hv => Nat.le_of_eq ?_
        rw [line_of_mem_tagUsages hu, line_of_mem_tagUsages hv]
      · intro u hu v hv
        rw [line_of_mem_tagUsages hu]
        exact le_line_of_mem_usagesFrom hv
    | closed name => exact ih line
    | text data => exact ih (line + newlinesIn data)

theorem Nest.frame_opened (n : Nest) {name : String} (h : isVoid name = false)
    (attributes : List (String × String)) :
    (n.after (.opened name attributes)).frames = ⟨name, n.line⟩ :: n.frames := by
  simp [Nest.after, h]

/-- **Callbacks do not influence events.** A source with callbacks for some kinds
of events delivers, of the events of a source with all three, those of these
kinds, and leaves the same elements open; and this is so whatever the callbacks
do. Hence the nesting check, which has all three, and the search for usages,
which does without closes, see the same opens and the same text before each. A
usage has the line that the check has at its tag and gives to the frame it opens
there: one more than the line feeds in the text before. In the order of the
document these lines never fall. -/
theorem callbacks_only_listen (path : String) (calls : List Call) (failure : Option Failure) :
    (∀ kinds,
      (Callbacks.record kinds calls).state =
        (Callbacks.record Event.kinds calls).state.filter (fun e => kinds.contains e.kind) ∧
      (Callbacks.record kinds calls).opened = (Callbacks.record Event.kinds calls).opened) ∧
    (∀ (σ : Type) (h : Callbacks σ) (s : σ),
      (h.feed ⟨[], s⟩ calls).opened = (Callbacks.record Event.kinds calls).opened ∧
      (h.feed ⟨[], s⟩ calls).state =
        (Callbacks.record Event.kinds calls).state.foldl h.deliver s) ∧
    Callbacks.record Event.kinds calls = ⟨openAfter [] calls, events calls⟩ ∧
    (nestCallbacks.feed ⟨[], ({}, [])⟩ calls).state =
      (Nest.run {} (events calls), Nest.strays {} (events calls)) ∧
    ((usageCallbacks path).feed ⟨[], (1, [])⟩ calls).state.2 = usages path ⟨calls, failure⟩ ∧
    openings "" (Callbacks.record [.opened, .text] calls).state =
      openings "" (Callbacks.record Event.kinds calls).state ∧
    usages path ⟨calls, failure⟩ = (openings "" (events calls)).flatMap
      (fun o => tagUsages path (1 + newlinesIn o.before) o.attributes) ∧
    (∀ before name attributes after, events calls = before ++ .opened name attributes :: after →
      let line := 1 + newlinesIn (textOf before)
      usages path ⟨calls, failure⟩ = usagesFrom path 1 before ++ tagUsages path line attributes ++
        usagesFrom path line after ∧
      (∀ u ∈ tagUsages path line attributes, u.line = line) ∧
      (Nest.run {} before).line = line ∧
      (isVoid name = false → (Nest.run {} (before ++ [.opened name attributes])).frames =
        ⟨name, line⟩ :: (Nest.run {} before).frames)) ∧
    (usages path ⟨calls, failure⟩).Pairwise (fun u v => u.line ≤ v.line) := by
  have hall : Callbacks.record Event.kinds calls = ⟨openAfter [] calls, events calls⟩ := by
    rw [Callbacks.record_eq, select_kinds]
  rw [hall]
  refine ⟨fun kinds => ?_, fun σ h s => ?_, rfl, ?_,
    (feed_usageCallbacks path calls failure).2, ?_, usagesFrom_eq_openings path "" (events calls),
    ?_, usages_pairwise path 1 (events calls)⟩
  · rw [Callbacks.record_eq]
    exact ⟨rfl, rfl⟩
  · rw [Callbacks.feed_eq]
    exact ⟨rfl, rfl⟩
  · rw [feed_nestCallbacks]
  · rw [Callbacks.record_eq]
    exact openings_select "" (events calls)
  · intro before name attributes after h line
    have hline : (Nest.run {} before).line = line := Nest.line_run {} before
    refine ⟨?_, fun u hu => line_of_mem_tagUsages hu, hline, fun hv => ?_⟩
    · simp only [usages, h, usagesFrom_append, usagesFrom, List.append_assoc, line]
    · rw [Nest.run_append, ← hline]
      exact Nest.frame_opened _ hv attributes

end SiteAudit.Markup
