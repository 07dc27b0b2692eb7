import SiteAudit.Tag.Element
/-!
# Tag events

A document is read as a sequence of *calls*: start tags, end tags and text, as they are written.
From the calls come the *events*: the same sequence with the end tags filled in that the document
left out.  Only the list of open elements is kept between calls, the innermost first.

* Opening an element first ends the innermost elements that it implies the end of.
* Closing an element first ends the elements inside it, when all of them may lack an end tag;
  otherwise the close is passed on as written and ends nothing.
* `Call.events` gives the events of one call and the open elements after it, `run` those of a
  sequence.
-/
namespace SiteAudit.Tag

/-- A piece of a document as it is written.  Names are in lower case; an attribute may lack a
value. -/
inductive Call where
  | start (name : String) (attributes : List (String × Option String))
  | finish (name : String)
  | data (text : String)
  deriving DecidableEq, Repr

/-- A piece of a document with all end tags in place.  Attributes have distinct names. -/
inductive Event where
  | opened (name : String) (attributes : List (String × String))
  | closed (name : String)
  | text (data : String)
  deriving DecidableEq, Repr

/-- The first attribute of each name, in order; a missing value is empty. -/
def distinctAttributes : List (String × Option String) → List (String × String)
  | [] => []
  | (name, value) :: more =>
    (name, value.getD "") :: (distinctAttributes more).filter (fun a => a.1 != name)

/-- The names of the elements that are open, the innermost first. -/
abbrev OpenElements := List String

/-- The elements at the front of `open` that the start of `name` ends. -/
def impliedRun (name : String) (opened : OpenElements) : List String :=
  opened.takeWhile (fun e => (impliedCloses name).contains e)

/-- The elements open inside the innermost `name`. -/
def inside (name : String) (opened : OpenElements) : List String :=
  opened.takeWhile (fun e => e != name)

/-- Whether an end tag ends an open element: there is one of that name, and everything inside it may
lack its end tag.  See SPEC_FULL.md:92-95. -/
def endsElement (name : String) (opened : OpenElements) : Bool :=
  opened.contains name && (inside name opened).all hasOptionalEnd

def Call.after (opened : OpenElements) : Call → OpenElements
  | .start name _ =>
    let rest := opened.drop (impliedRun name opened).length
    if isVoid name then rest else name :: rest
  | .finish name =>
    if endsElement name opened then opened.drop ((inside name opened).length + 1) else opened
  | .data _ => opened

def Call.events (opened : OpenElements) : Call → List Event
  | .start name attributes =>
    (impliedRun name opened).map .closed ++ [.opened name (distinctAttributes attributes)]
  | .finish name =>
    (if endsElement name opened then (inside name opened).map .closed else []) ++ [.closed name]
  | .data text => [.text text]

def openAfter (opened : OpenElements) : List Call → OpenElements
  | [] => opened
  | c :: more => openAfter (c.after opened) more

def run (opened : OpenElements) : List Call → List Event
  | [] => []
  | c :: more => c.events opened ++ run (c.after opened) more

/-- The events of a document that starts with nothing open. -/
def events (calls : List Call) : List Event := run [] calls

/-! ## Views of the event sequence -/

/-- The three kinds of event. -/
inductive Event.Kind where
  | opened
  | closed
  | text
  deriving DecidableEq, Repr

def Event.kind : Event → Event.Kind
  | .opened .. => .opened
  | .closed _ => .closed
  | .text _ => .text

/-- The events of the given kinds. -/
def select (kinds : List Event.Kind) (es : List Event) : List Event :=
  es.filter (fun e => kinds.contains e.kind)

/-- Joins text events that stand side by side. -/
def joinText : List Event → List Event
  | [] => []
  | .text a :: more =>
    match joinText more with
    | .text b :: rest => .text (a ++ b) :: rest
    | rest => .text a :: rest
  | e :: more => e :: joinText more

end SiteAudit.Tag
