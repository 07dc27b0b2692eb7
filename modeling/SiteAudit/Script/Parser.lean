import SiteAudit.Failure
import SiteAudit.Script.Merging
import SiteAudit.Script.Recovery
/-!
# The parser of scripts

A script is read token by token.  Where the grammar leaves open what a token means, all readings go
on side by side; after each round the worse ones are dropped, and a reading that has met an error is
taken up again only if no other can go on.  So every text has a tree, with faults in it where the
text is no script.

* `parse` gives the syntax tree of a text.
-/
namespace SiteAudit.Script

/-! ## One step of a reading -/

/-- What the actions for a token came to. -/
inductive Outcome where
  /-- The token was taken. -/
  | taken
  /-- Productions ended; the reading goes on in a new one, if one is left. -/
  | ended (new : Option Nat)
  /-- There was nothing to do. -/
  | stuck

/-- Performs the actions for a token. -/
def perform (v : Nat) (token : Subtree) (state : Nat) (outcome : Outcome) :
    List Action → Work Outcome
  | [] => return outcome
  | .shift true :: more => perform v token state outcome more
  | .shift false :: _ => do
    let next := (← get).automaton.next state token.symbol
    onStack (·.push v (some (token.withExtra false)) next)
    return .taken
  | .extra :: _ => do
    onStack (·.push v (some (token.withExtra true)) state)
    return .taken
  | .accept :: _ => do
    accept v token
    return .taken
  | .recover :: _ => do
    recover v token
    return .taken
  | .reduce head count weight called :: more => do
    let new ← reduce v head count weight called
    let last := match new, outcome with
      | some w, _ => some w
      | none, .ended w => w
      | none, _ => none
    perform v token state (.ended last) more

/-- Goes on in a reading until its next token is taken or does not fit. -/
def takeToken (v : Nat) : Nat → Subtree → Work Unit
  | 0, _ => onStack (·.halt v)
  | k + 1, token => do
    let m ← get
    let state := m.stack.state v
    match ← perform v token state .stuck (m.automaton.actions state token.symbol) with
    | .taken => return ()
    | .ended (some new) =>
      onStack (·.replace new v)
      takeToken v k token
    | .ended none => onStack (·.halt v)
    | .stuck =>
      let reserved := (m.automaton.state state).reserves && reservedTokens.testBit token.symbol
      if token.summary.keyword && token.symbol != identifierToken && !reserved &&
          !(m.automaton.actions state identifierToken).isEmpty then
        takeToken v k (token.withSymbol identifierToken)
      else if state == errorState then recover v token
      else onStack (·.pause v token)

def advance (v : Nat) : Work Unit := do
  let m ← get
  let token := lookahead m.source m.automaton (m.stack.state v) (m.stack.place v)
    (m.stack.hasAdvanced v)
  takeToken v (16 * (m.stack.nodes.size + 16)) token

/-! ## Rounds -/

/-- Goes on in a reading until it has come further than the ones before; the result is how far. -/
def advanceOn (v : Nat) : Nat → Nat → Work Nat
  | 0, reached => return reached
  | k + 1, reached => do
    if !(← get).stack.isActive v then return reached
    advance v
    let place := (← get).stack.place v
    if reached < place || (0 < v && place == reached) then return place
    advanceOn v k reached

def advanceAll (fuel : Nat) : Nat → Nat → Nat → Work Nat
  | 0, _, reached => return reached
  | k + 1, v, reached => do
    if (← get).stack.size ≤ v then return reached
    let reached ← advanceOn v fuel reached
    advanceAll fuel k (v + 1) reached

/-- Weighs a reading against those before it; gives the number of the reading to look at next. -/
def weighAgainst (mine : Standing) : Nat → Nat → Nat → Work Nat
  | 0, i, _ => return i + 1
  | k + 1, i, j => do
    if i ≤ j then return i + 1
    match (← standing j).compare mine with
    | .takeFirst =>
      onStack (·.remove i)
      return i
    | .takeSecond =>
      onStack (·.remove j)
      weighAgainst mine k (i - 1) j
    | .preferSecond =>
      if ← merge j i then return i
      onStack (·.swap i j)
      weighAgainst mine k i (j + 1)
    | _ =>
      if ← merge j i then return i
      weighAgainst mine k i (j + 1)

/-- The lesser of two costs, where there may be none yet. -/
def lesser (a : Option Nat) (b : Nat) : Option Nat := some ((a.map (min b)).getD b)

/-- Drops readings that are halted or clearly worse than others, and puts the better ones first.
The result is the least cost of a reading that is in no error. -/
def weighAll : Nat → Nat → Option Nat → Work (Option Nat)
  | 0, _, least => return least
  | k + 1, i, least => do
    let s := (← get).stack
    if s.size ≤ i then return least
    if (s.head i).status.isHalted then
      onStack (·.remove i)
      weighAll k i least
    else
      let mine ← standing i
      let least := if mine.inError then least else lesser least mine.cost
      let next ← weighAgainst mine (i + 1) i 0
      weighAll k next least

/-- Takes up the first reading that waits, if no reading before it goes on, and drops the others. -/
def resumeFirst : Nat → Nat → Bool → Option Nat → Work (Option Nat)
  | 0, _, _, least => return least
  | k + 1, i, going, least => do
    let s := (← get).stack
    match (s.head i).status with
    | .paused token =>
      if !going && (← get).accepted < maxReadings then
        let cost := s.cost i
        onStack (·.resume i)
        handleError i token
        resumeFirst k (i + 1) true (some cost)
      else
        onStack (·.remove i)
        resumeFirst k i going least
    | _ => resumeFirst k (i + 1) true least

/-- Puts the readings in order after a round. -/
def condense : Work (Option Nat) := do
  let size := (← get).stack.size
  let least ← weighAll (2 * size + 1) 0 none
  onStack (fun s => { s with heads := s.heads.take maxReadings })
  resumeFirst (← get).stack.size 0 false least

/-- Whether the finished tree is better than all that is still going on. -/
def isDone (m : Machine) (least : Option Nat) : Bool :=
  match m.finished, least with
  | some t, some cost => t.cost < cost
  | some _, none => true
  | none, _ => false

/-- Goes on in rounds until the best tree is found. -/
def rounds (fuel : Nat) : Nat → Nat → Work Unit
  | 0, _ => return ()
  | k + 1, reached => do
    let count := (← get).stack.size
    let reached ← advanceAll fuel (4 * (count + maxReadings + spareReadings)) 0 reached
    let least ← condense
    let m ← get
    if isDone m least || m.stack.size == 0 then return ()
    rounds fuel k reached

/-! ## Parsing -/

/-- The work on a text, before it begins. -/
def Machine.ofText (text : List Char) : Machine :=
  { source := .ofText text, automaton := Automaton.merged.get, stack := .start }

/-- The tree of a text that could not be read at all. -/
def unread (source : Source) : Subtree :=
  .node source skippedText [] 0 [.leaf skippedText 0 0 source.size false]

def parse (text : String) : Except Failure SyntaxNode :=
  let start := Machine.ofText text.toList
  let work := 8 * (start.source.size + 512)
  let (_, m) := (rounds work work 0).run start
  let tree := m.finished.getD (unread m.source)
  .ok ((tree.toSyntaxNodes m.source none).headD
    (.mk SyntaxNode.errorKind false true 0 0 0 (m.source.byte m.source.size) []))

end SiteAudit.Script
