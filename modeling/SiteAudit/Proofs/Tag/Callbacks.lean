import SiteAudit.Proofs.Tag.Inference

/-!
# Events delivered to callbacks

`run` lists the events of a sequence of calls. A source of events keeps no such
list: it hands each event to a callback as soon as it comes up, in the middle of
its work on the open elements, and a callback may be missing. `Callbacks.take` is
this work, call by call, with the callbacks' state carried along.

* `take_eq`: a call leaves open what it would leave without callbacks, and its
  events are delivered in order.
* `feed_eq`: so does a whole run.
* `feed_only`: callbacks for some kinds of events get the events of these kinds,
  and miss nothing that others would get in between.
-/
namespace SiteAudit.Tag

variable {σ : Type}

/-- What is done on each kind of event, if anything. It changes a state of its
own, of which the source knows nothing. -/
structure Callbacks (σ : Type) where
  onOpen : Option (String → List (String × String) → σ → σ) := none
  onClose : Option (String → σ → σ) := none
  onText : Option (String → σ → σ) := none

/-- A source between two calls: the open elements, the innermost first, and the
state of the callbacks. -/
structure Source (σ : Type) where
  opened : OpenElements := []
  state : σ

namespace Callbacks

def close (h : Callbacks σ) (s : σ) (name : String) : σ :=
  match h.onClose with
  | some f => f name s
  | none => s

/-- Ends the innermost elements one by one, as long as the start of `name` ends
them. -/
def endImplied (h : Callbacks σ) (name : String) : OpenElements → σ → Source σ
  | [], s => ⟨[], s⟩
  | e :: rest, s =>
    if (impliedCloses name).contains e then h.endImplied name rest (h.close s e)
    else ⟨e :: rest, s⟩

/-- The source after a call. -/
def take (h : Callbacks σ) (p : Source σ) : Call → Source σ
  | .start name attributes =>
    let q := h.endImplied name p.opened p.state
    let opened := if isVoid name then q.opened else name :: q.opened
    match h.onOpen with
    | some f => ⟨opened, f name (attributes.foldl keepFirst []) q.state⟩
    | none => ⟨opened, q.state⟩
  | .finish name =>
    if endsElement name p.opened then
      let inner := inside name p.opened
      ⟨p.opened.drop (inner.length + 1), h.close (inner.foldl h.close p.state) name⟩
    else ⟨p.opened, h.close p.state name⟩
  | .data text =>
    match h.onText with
    | some f => ⟨p.opened, f text p.state⟩
    | none => p

/-- The source after a sequence of calls. -/
def feed (h : Callbacks σ) (p : Source σ) (calls : List Call) : Source σ := calls.foldl h.take p

/-- The state after one event, if there is a callback for it. -/
def deliver (h : Callbacks σ) (s : σ) : Event → σ
  | .opened name attributes =>
    match h.onOpen with
    | some f => f name attributes s
    | none => s
  | .closed name => h.close s name
  | .text data =>
    match h.onText with
    | some f => f data s
    | none => s

/-! ## Calls -/

theorem endImplied_eq (h : Callbacks σ) (name : String) (opened : OpenElements) (s : σ) :
    h.endImplied name opened s =
      ⟨opened.drop (impliedRun name opened).length, (impliedRun name opened).foldl h.close s⟩ := by
  induction opened generalizing s with
  | nil => rfl
  | cons e rest ih =>
    unfold endImplied impliedRun
    by_cases he : (impliedCloses name).contains e = true
    · rw [if_pos he, List.takeWhile_cons_of_pos he, ih]
      rfl
    · rw [if_neg he, List.takeWhile_cons_of_neg he]
      rfl

theorem foldl_deliver_closed (h : Callbacks σ) (names : List String) (s : σ) :
    (names.map Event.closed).foldl h.deliver s = names.foldl h.close s := by
  rw [List.foldl_map]
  rfl

/-- **One call.** Callbacks change nothing in the open elements, and they get
the events of the call in order. -/
theorem take_eq (h : Callbacks σ) (p : Source σ) (c : Call) :
    h.take p c = ⟨c.after p.opened, (c.events p.opened).foldl h.deliver p.state⟩ := by
  cases c with
  | start name attributes =>
    simp only [take, endImplied_eq, Call.after, Call.events, List.foldl_append,
      foldl_deliver_closed, distinctAttributes_eq_foldl]
    unfold deliver
    cases h.onOpen <;> rfl
  | finish name =>
    simp only [take, Call.after, Call.events, List.foldl_append]
    cases endsElement name p.opened with
    | true =>
      simp only [if_true, foldl_deliver_closed]
      rfl
    | false => rfl
  | data text =>
    unfold take Call.after Call.events deliver
    cases h.onText <;> rfl

theorem feed_eq (h : Callbacks σ) (p : Source σ) (calls : List Call) :
    h.feed p calls = ⟨openAfter p.opened calls, (run p.opened calls).foldl h.deliver p.state⟩ := by
  induction calls generalizing p with
  | nil => rfl
  | cons c more ih =>
    have hfirst : h.feed p (c :: more) = h.feed (h.take p c) more := rfl
    rw [hfirst, ih, take_eq, run, openAfter, List.foldl_append]

/-! ## Callbacks for some kinds of events -/

/-- The callbacks for the given kinds of events that together do `f`. -/
def only (kinds : List Event.Kind) (f : σ → Event → σ) : Callbacks σ where
  onOpen := if kinds.contains .opened then some (fun name a s => f s (.opened name a)) else none
  onClose := if kinds.contains .closed then some (fun name s => f s (.closed name)) else none
  onText := if kinds.contains .text then some (fun data s => f s (.text data)) else none

theorem deliver_only (kinds : List Event.Kind) (f : σ → Event → σ) (s : σ) (e : Event) :
    (only kinds f).deliver s e = if kinds.contains e.kind then f s e else s := by
  cases e with
  | opened name attributes =>
    by_cases hk : Event.Kind.opened ∈ kinds <;> simp [deliver, only, Event.kind, hk]
  | closed name =>
    by_cases hk : Event.Kind.closed ∈ kinds <;> simp [deliver, close, only, Event.kind, hk]
  | text data =>
    by_cases hk : Event.Kind.text ∈ kinds <;> simp [deliver, only, Event.kind, hk]

/-- **Some callbacks.** A run with callbacks for some kinds of events does with
the events of these kinds what it would do if no others came up. -/
theorem feed_only (kinds : List Event.Kind) (f : σ → Event → σ) (s : σ) (calls : List Call) :
    (only kinds f).feed ⟨[], s⟩ calls =
      ⟨openAfter [] calls, (select kinds (events calls)).foldl f s⟩ := by
  have hdeliver : (only kinds f).deliver = fun s e => if kinds.contains e.kind then f s e else s :=
    funext fun s => funext fun e => deliver_only kinds f s e
  rw [feed_eq, hdeliver, select, List.foldl_filter]
  rfl

/-- The source after calls, with callbacks for the given kinds that note what
they get. -/
def record (kinds : List Event.Kind) (calls : List Call) : Source (List Event) :=
  (only kinds (fun found e => found ++ [e])).feed ⟨[], []⟩ calls

theorem record_eq (kinds : List Event.Kind) (calls : List Call) :
    record kinds calls = ⟨openAfter [] calls, select kinds (events calls)⟩ := by
  have hnote : ∀ (es found : List Event), es.foldl (fun found e => found ++ [e]) found =
      found ++ es := by
    intro es
    induction es with
    | nil => simp
    | cons e more ih => simp [ih]
  rw [record, feed_only, hnote]
  rfl

end Callbacks

/-- All kinds of events. -/
def Event.kinds : List Event.Kind := [.opened, .closed, .text]

theorem select_kinds (es : List Event) : select Event.kinds es = es := by
  refine List.filter_eq_self.mpr fun e _ => ?_
  cases e <;> rfl

end SiteAudit.Tag
