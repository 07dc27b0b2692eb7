import SiteAudit.Proofs.Markup.Lockstep

/-!
# Documents with end tags left out

A document is a forest of texts, void elements and elements with content; an
element has its end tag written or left out. `Forest.calls` is the document as
it is written, `Forest.closedEvents` the event sequence of the same forest with
all end tags in place.

`Forest.Legal` says where an end tag may be left out. Elements without end tag
that are each the last child of the one before form a chain (`openTail` is the
chain at the end of some siblings), and the token behind the chain
(`Follower`) decides.

* `run_calls`: from any open elements that fit, the events of a legal forest
  are its closed events less the closes of the chain at its end, and that chain
  is what stays open.
* `omitted_ends_restored`: a legal document gives exactly its closed events, and the
  nesting check finds nothing.
-/
namespace SiteAudit.Markup

open Tag

/-! ## Forests -/

/-- Trees side by side: the first of them and the later siblings. -/
inductive Forest where
  | nil
  | text (data : String) (rest : Forest)
  | void (name : String) (attributes : List (String × Option String)) (rest : Forest)
  | element (name : String) (attributes : List (String × Option String)) (written : Bool)
      (children rest : Forest)
  deriving DecidableEq, Repr

namespace Forest

/-- The document as it is written. -/
def calls : Forest → List Call
  | nil => []
  | text data rest => .data data :: rest.calls
  | void name attributes rest => .start name attributes :: rest.calls
  | element name attributes written children rest =>
    .start name attributes :: children.calls ++
      (if written then [.finish name] else []) ++ rest.calls

/-- The events of the document with all end tags in place. -/
def closedEvents : Forest → List Event
  | nil => []
  | text data rest => .text data :: rest.closedEvents
  | void name attributes rest =>
    .opened name (attributes.foldl keepFirst []) :: rest.closedEvents
  | element name attributes _ children rest =>
    .opened name (attributes.foldl keepFirst []) :: children.closedEvents ++
      .closed name :: rest.closedEvents

/-- The names of the chain that begins with the last tree, the outermost first:
empty unless that tree is an element without end tag. -/
def openTail : Forest → List String
  | nil => []
  | text _ rest => rest.openTail
  | void _ _ rest => rest.openTail
  | element name _ false children nil => name :: children.openTail
  | element _ _ _ _ rest => rest.openTail

end Forest

/-- What stands behind a tree. -/
inductive Follower where
  /-- The start tag of the next sibling. -/
  | start (name : String)
  /-- The written end tag of the parent. -/
  | finish (name : String)
  /-- The end of a parent whose own end tag is left out: the chain is longer. -/
  | omitted
  /-- Text, or the end of the document. -/
  | other
  deriving DecidableEq, Repr

/-- Whether the elements of a chain may lack their end tags in front of a token. -/
def Follower.Ends (chain : List String) : Follower → Prop
  | start name => ∀ x ∈ chain, x ∈ impliedCloses name
  | finish name => ∀ x ∈ chain, hasOptionalEnd x = true ∧ x ≠ name
  | omitted => True
  | other => False

namespace Forest

/-- What stands behind a tree with these later siblings, in a parent that is
followed by `behind`. -/
def follower (behind : Follower) : Forest → Follower
  | nil => behind
  | text .. => .other
  | void name .. => .start name
  | element name .. => .start name

/-- Where end tags may be left out. `parent` is the element around the forest
and `behind` what stands behind the last tree. No child ends its parent, and
each chain is ended by what stands behind it. -/
def Legal (parent : Option String) (behind : Follower) : Forest → Prop
  | nil => True
  | text _ rest => rest.Legal parent behind
  | void name _ rest =>
    isVoid name = true ∧ (∀ p ∈ parent, p ∉ impliedCloses name) ∧ rest.Legal parent behind
  | element name _ written children rest =>
    isVoid name = false ∧ (∀ p ∈ parent, p ∉ impliedCloses name) ∧
    (written = false → (rest.follower behind).Ends (name :: children.openTail)) ∧
    children.Legal (some name) (if written then .finish name else .omitted) ∧
    rest.Legal parent behind

end Forest

instance (chain : List String) (follower : Follower) : Decidable (follower.Ends chain) := by
  cases follower <;> unfold Follower.Ends <;> exact inferInstance

instance Forest.decidableLegal : (parent : Option String) → (behind : Follower) → (f : Forest) →
    Decidable (f.Legal parent behind)
  | _, _, .nil => inferInstanceAs (Decidable True)
  | parent, behind, .text _ rest => rest.decidableLegal parent behind
  | parent, behind, .void _ _ rest =>
    have := rest.decidableLegal parent behind
    inferInstanceAs (Decidable (_ ∧ _ ∧ _))
  | parent, behind, .element name _ written children rest =>
    have := children.decidableLegal (some name) (if written then .finish name else .omitted)
    have := rest.decidableLegal parent behind
    inferInstanceAs (Decidable (_ ∧ _ ∧ (_ → _) ∧ _ ∧ _))

/-! ## Chains and what ends them -/

theorem Forest.openTail_written (name : String) (attributes : List (String × Option String))
    (children rest : Forest) :
    (element name attributes true children rest).openTail = rest.openTail := by
  cases rest <;> rfl

theorem Forest.openTail_rest {rest : Forest} (hne : rest ≠ .nil) (name : String)
    (attributes : List (String × Option String)) (written : Bool) (children : Forest) :
    (element name attributes written children rest).openTail = rest.openTail := by
  cases rest with
  | nil => exact absurd rfl hne
  | _ => cases written <;> rfl

theorem Forest.Legal.ends {f : Forest} {parent : Option String} {behind : Follower}
    (h : f.Legal parent behind) : f.openTail = [] ∨ behind.Ends f.openTail := by
  induction f with
  | nil => exact Or.inl rfl
  | text data rest ih => exact ih h
  | void name attributes rest ih => exact ih h.2.2
  | element name attributes written children rest _ ih =>
    obtain ⟨-, -, hchain, -, hrest⟩ := h
    by_cases hne : rest = .nil
    · subst hne
      cases written with
      | false => exact Or.inr (hchain rfl)
      | true => exact Or.inl rfl
    · rw [openTail_rest hne]
      exact ih hrest

/-- A start tag ends a chain that it implies the end of, and then does what it
does without the chain. -/
theorem start_absorbs {name : String} {chain : List String}
    (h : ∀ x ∈ chain, x ∈ impliedCloses name) (attributes : List (String × Option String))
    (outer : OpenElements) :
    (Call.start name attributes).events (chain ++ outer) =
        chain.map .closed ++ (Call.start name attributes).events outer ∧
      (Call.start name attributes).after (chain ++ outer) =
        (Call.start name attributes).after outer := by
  have hrun : impliedRun name (chain ++ outer) = chain ++ impliedRun name outer :=
    List.takeWhile_append_of_pos (fun x hx => by simpa using h x hx)
  simp [Call.events, Call.after, hrun, List.append_assoc]

/-- Later siblings end the chain in front of them first. -/
theorem run_absorbs {rest : Forest} {behind : Follower} {chain : List String} (hne : rest ≠ .nil)
    (h : (rest.follower behind).Ends chain) (outer : OpenElements) :
    run (chain.reverse ++ outer) rest.calls =
        chain.reverse.map .closed ++ run outer rest.calls ∧
      openAfter (chain.reverse ++ outer) rest.calls = openAfter outer rest.calls := by
  have hstart : ∀ name attributes (more : List Call), (∀ x ∈ chain, x ∈ impliedCloses name) →
      run (chain.reverse ++ outer) (.start name attributes :: more) =
          chain.reverse.map .closed ++ run outer (.start name attributes :: more) ∧
        openAfter (chain.reverse ++ outer) (.start name attributes :: more) =
          openAfter outer (.start name attributes :: more) := by
    intro name attributes more hall
    obtain ⟨hev, hafter⟩ := start_absorbs (fun x hx => hall x (List.mem_reverse.mp hx))
      attributes outer
    simp only [run, openAfter, hev, hafter, List.append_assoc]
    exact ⟨trivial, trivial⟩
  cases rest with
  | nil => exact absurd rfl hne
  | text data rest => exact h.elim
  | void name attributes rest => exact hstart name attributes _ h
  | element name attributes written children rest => exact hstart name attributes _ h

theorem start_keeps {name : String} {outer : OpenElements}
    (h : ∀ p ∈ outer.head?, p ∉ impliedCloses name) (attributes : List (String × Option String)) :
    (Call.start name attributes).events outer = [.opened name (attributes.foldl keepFirst [])] ∧
      (Call.start name attributes).after outer = if isVoid name then outer else name :: outer := by
  have hrun : impliedRun name outer = [] := by
    cases outer with
    | nil => rfl
    | cons p below => exact List.takeWhile_cons_of_neg (by simpa using h p rfl)
  simp [Call.events, Call.after, hrun, distinctAttributes_eq_foldl]

/-- An end tag ends a chain of elements that may lack theirs, then its own element. -/
theorem finish_absorbs {name : String} {chain : List String}
    (h : ∀ x ∈ chain, hasOptionalEnd x = true ∧ x ≠ name) (outer : OpenElements) :
    (Call.finish name).events (chain ++ name :: outer) = chain.map .closed ++ [.closed name] ∧
      (Call.finish name).after (chain ++ name :: outer) = outer := by
  have hn : name ∉ chain := fun hm => (h name hm).2 rfl
  obtain ⟨hinferred, hafter⟩ := finish_eq hn (fun x hx => (h x hx).1) outer
  rw [Call.events_eq, hinferred]
  exact ⟨rfl, hafter⟩

/-! ## The events of a forest -/

/-- **A forest.** With the parent innermost, the events of a legal forest and
the closes of the chain at its end make up its closed events, and the chain is
left open. The chain in front of later siblings is still open when these
begin, so the induction on them starts from the open elements without it
(`run_absorbs`). -/
theorem run_calls (f : Forest) (parent : Option String) (behind : Follower)
    (outer : OpenElements) (h : f.Legal parent behind) (hp : outer.head? = parent) :
    run outer f.calls ++ f.openTail.reverse.map .closed = f.closedEvents ∧
      openAfter outer f.calls = f.openTail.reverse ++ outer := by
  induction f generalizing parent behind outer with
  | nil => exact ⟨rfl, rfl⟩
  | text data rest ih =>
    obtain ⟨hrun, hopen⟩ := ih parent behind outer h hp
    exact ⟨congrArg (Event.text data :: ·) hrun, hopen⟩
  | void name attributes rest ih =>
    obtain ⟨hv, hparent, hrest⟩ := h
    obtain ⟨hrun, hopen⟩ := ih parent behind outer hrest hp
    obtain ⟨hev, hafter⟩ := start_keeps (hp ▸ hparent) attributes
    rw [if_pos hv] at hafter
    simp only [Forest.calls, run, openAfter, hev, hafter]
    exact ⟨congrArg (_ :: ·) hrun, hopen⟩
  | element name attributes written children rest ihc ihr =>
    obtain ⟨hv, hparent, hchain, hchildren, hrest⟩ := h
    obtain ⟨hev, hafter⟩ := start_keeps (hp ▸ hparent) attributes
    rw [if_neg (by simp [hv])] at hafter
    obtain ⟨hcrun, hcopen⟩ := ihc _ _ (name :: outer) hchildren rfl
    obtain ⟨hrrun, hropen⟩ := ihr parent behind outer hrest hp
    simp only [Forest.calls, List.cons_append, run, openAfter, hev, hafter, run_append,
      openAfter_append, hcopen, Forest.closedEvents, ← hcrun, ← hrrun]
    cases written with
    | true =>
      have hall : ∀ x ∈ children.openTail.reverse, hasOptionalEnd x = true ∧ x ≠ name := by
        intro x hx
        rw [List.mem_reverse] at hx
        rcases hchildren.ends with hnil | hends
        · rw [hnil] at hx; cases hx
        · exact hends x hx
      obtain ⟨hfev, hfafter⟩ := finish_absorbs hall outer
      rw [Forest.openTail_written]
      simp [run, openAfter, hfev, hfafter, hropen, List.append_assoc]
    | false =>
      by_cases hne : rest = .nil
      · subst hne
        simp [run, openAfter, Forest.calls, Forest.openTail, List.append_assoc]
      · have hfront := run_absorbs hne (hchain rfl) outer
        rw [List.reverse_cons, List.append_assoc, List.singleton_append] at hfront
        rw [Forest.openTail_rest hne]
        simp [run, openAfter, hfront, hropen, List.append_assoc]

/-- The chain at the end of a document is empty: nothing could end it. -/
theorem openTail_document {f : Forest} (h : f.Legal none .other) : f.openTail = [] :=
  h.ends.resolve_right id

theorem nest_closedEvents (f : Forest) (parent : Option String) (behind : Follower)
    (h : f.Legal parent behind) (n : Nest) :
    n.strays f.closedEvents = [] ∧ (n.run f.closedEvents).frames = n.frames := by
  induction f generalizing parent behind n with
  | nil => exact ⟨rfl, rfl⟩
  | text data rest ih => exact ih parent behind h (n.after (.text data))
  | void name attributes rest ih =>
    have hkeep : n.after (.opened name (attributes.foldl keepFirst [])) = n := by
      simp [Nest.after, h.1]
    have hrest := ih parent behind h.2.2 n
    simp only [Forest.closedEvents, Nest.strays, Nest.run, hkeep]
    exact hrest
  | element name attributes written children rest ihc ihr =>
    obtain ⟨hv, -, -, hchildren, hrest⟩ := h
    simp only [Forest.closedEvents, List.cons_append, Nest.strays, Nest.run, Nest.strays_append,
      Nest.run_append]
    -- `m` is the state with the frame of the element on top
    have hopened : (n.after (.opened name (attributes.foldl keepFirst []))).frames =
        ⟨name, n.line⟩ :: n.frames := by
      simp [Nest.after, hv]
    generalize n.after (.opened name (attributes.foldl keepFirst [])) = m at hopened ⊢
    obtain ⟨hcstrays, hcframes⟩ := ihc _ _ hchildren m
    obtain ⟨hnone, hclosed⟩ := Nest.close_top hv (hcframes.trans hopened)
    obtain ⟨hrstrays, hrframes⟩ :=
      ihr parent behind hrest ((m.run children.closedEvents).after (.closed name))
    rw [hcstrays, hnone, hrstrays, hrframes, hclosed]
    exact ⟨rfl, rfl⟩

/-- **Omitted end tags are restored.** A document that leaves out end tags only
where it may gives the event sequence of the same document with all end tags
written, and the nesting check finds nothing in it. -/
theorem omitted_ends_restored (path : String) (f : Forest) (h : f.Legal none .other) :
    events f.calls = f.closedEvents ∧ issues path { calls := f.calls } = [] := by
  obtain ⟨hrun, -⟩ := run_calls f none .other [] h rfl
  rw [openTail_document h] at hrun
  have hevents : events f.calls = f.closedEvents := by simpa [events] using hrun
  obtain ⟨hstrays, hframes⟩ := nest_closedEvents f none .other h {}
  refine ⟨hevents, ?_⟩
  rw [issues_eq, strayIssues, hevents, hstrays, hframes]
  rfl

/-- A list and a table. Items and rows leave out their end tags; the first row
and its cell are a chain that the next row ends, the last item and its paragraph
one that the end of the list ends. -/
def looseDocument : Forest :=
  .element "ul" [("id", some "a"), ("id", none)] true
    (.element "li" [] false (.text "one" (.void "br" [] .nil))
      (.element "li" [] false (.element "p" [] false (.text "two" .nil) .nil) .nil))
    (.element "table" [] true
      (.element "tr" [] false (.element "td" [] false (.text "x" .nil) .nil)
        (.element "tr" [] false (.element "td" [] true .nil .nil) .nil)) .nil)

theorem looseDocument_restored :
    looseDocument.Legal none .other ∧
      looseDocument.calls = [.start "ul" [("id", some "a"), ("id", none)], .start "li" [],
        .data "one", .start "br" [], .start "li" [], .start "p" [], .data "two", .finish "ul",
        .start "table" [], .start "tr" [], .start "td" [], .data "x", .start "tr" [],
        .start "td" [], .finish "td", .finish "table"] ∧
      events looseDocument.calls = looseDocument.closedEvents ∧
      issues "a.html" { calls := looseDocument.calls } = [] :=
  have h : looseDocument.Legal none .other := by decide
  ⟨h, by decide, omitted_ends_restored "a.html" looseDocument h⟩

end SiteAudit.Markup
