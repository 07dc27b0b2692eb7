import SiteAudit.Script.Lookahead
import SiteAudit.Script.Stack
/-!
# Readings of a script

The readings of a script go on in rounds.  Here are the steps that they take: a production is ended,
the whole text is accepted, and readings are weighed against each other.

* `reduce` ends a production in a reading.
* `accept` takes a reading of the whole text.
* `Standing.compare` weighs two readings.
-/
namespace SiteAudit.Script

structure Machine where
  source : Source
  automaton : Automaton
  stack : Stack
  /-- The best tree for the whole text so far. -/
  finished : Option Subtree := none
  /-- How many readings have come to the end. -/
  accepted : Nat := 0

abbrev Work := StateM Machine

/-- How many readings are kept from round to round. -/
def maxReadings : Nat := 6

/-- How many more there may be within a round. -/
def spareReadings : Nat := 4

/-- Changes the stack. -/
def onStack (f : Stack → Stack) : Work Unit := modify (fun m => { m with stack := f m.stack })

/-- Merges the second reading into the first; tells whether they agreed. -/
def merge (v w : Nat) : Work Bool := do
  let m ← get
  match m.stack.merge? m.source v w with
  | some stack => set { m with stack }; return true
  | none => return false

/-! ## Weighing readings -/

/-- What decides between readings. -/
structure Standing where
  cost : Nat
  progress : Nat
  weight : Int
  inError : Bool

/-- What comes of weighing two readings. -/
inductive Verdict where
  | takeFirst
  | preferFirst
  | even
  | preferSecond
  | takeSecond
  deriving DecidableEq

/-- How far apart costs may be, the more progress the less. -/
def maxCostDifference : Nat := 18 * costs.skippedTree

/-- Weighs two readings. -/
def Standing.compare (a b : Standing) : Verdict :=
  if !a.inError && b.inError then if a.cost < b.cost then .takeFirst else .preferFirst
  else if a.inError && !b.inError then if b.cost < a.cost then .takeSecond else .preferSecond
  else if a.cost < b.cost then
    if maxCostDifference < (b.cost - a.cost) * (1 + a.progress) then .takeFirst else .preferFirst
  else if b.cost < a.cost then
    if maxCostDifference < (a.cost - b.cost) * (1 + b.progress) then .takeSecond else .preferSecond
  else if b.weight < a.weight then .preferFirst
  else if a.weight < b.weight then .preferSecond
  else .even

/-- The progress of a reading since its last error. -/
def progressSinceError (v : Nat) : Work Nat := do
  onStack (·.settle v)
  return (← get).stack.progressSinceError v

/-- How a reading stands. -/
def standing (v : Nat) : Work Standing := do
  let progress ← progressSinceError v
  let s := (← get).stack
  let paused := s.isPaused v
  return { cost := s.cost v + if paused then costs.skippedTree else 0
           progress, weight := (s.top v).weight
           inError := paused || s.state v == errorState }

/-- Whether one of some readings is better than reading `v` would be with a given standing. -/
def anyBetter (v : Nat) (mine : Standing) : List Nat → Work Bool
  | [] => return false
  | w :: more => do
    let s := (← get).stack
    if w == v || !s.isActive w || s.place w < s.place v then anyBetter v mine more
    else
      match mine.compare (← standing w) with
      | .takeSecond => return true
      | .preferSecond => if s.canMerge w v then return true else anyBetter v mine more
      | _ => anyBetter v mine more

/-- Whether there is something better than reading `v` would be at a given cost. -/
def betterExists (v : Nat) (inError : Bool) (cost : Nat) : Work Bool := do
  match (← get).finished with
  | some t => if t.cost ≤ cost then return true
  | none => pure ()
  let progress ← progressSinceError v
  let s := (← get).stack
  anyBetter v { cost, progress, weight := (s.top v).weight, inError } (List.range s.size)

/-! ## Reducing -/

/-- A new node with the extras that follow it. -/
structure Reduced where
  tree : Subtree
  extras : List Subtree

/-- Makes a node of a row of trees. -/
def reduced (source : Source) (symbol : Nat) (called : List (Option String)) (place : Nat)
    (row : List Subtree) : Reduced :=
  let (children, extras) := Subtree.splitExtras row
  ⟨.node source symbol called place children, extras⟩

/-- The better of two nodes over the same text. -/
def Reduced.better (a b : Reduced) : Reduced := if a.tree.replacedBy b.tree then b else a

/-- Ends a production in each of the new readings; `removed` of them have gone. -/
def reduceEach (v symbol : Nat) (weight : Int) (called : List (Option String)) (limit : Nat) :
    Nat → List (Nat × List (List Subtree)) → Work Unit
  | _, [] => return ()
  | removed, (number, rows) :: more => do
    let w := number - removed
    if limit < w then
      onStack (·.remove w)
      reduceEach v symbol weight called limit (removed + 1) more
    else
      let m ← get
      let state := m.stack.state w
      match rows.map (reduced m.source symbol called (m.stack.place w)) with
      | [] => reduceEach v symbol weight called limit removed more
      | r :: others =>
        let best := others.foldl Reduced.better r
        let tree := best.tree.withWeight (best.tree.weight + weight)
        let next := m.automaton.next state symbol
        onStack (fun s => (s.push w (some tree) next).pushAll w best.extras next)
        let m ← get
        match m.stack.mergeInto? m.source w ((List.range w).filter (· != v)) with
        | some stack =>
          set { m with stack }
          reduceEach v symbol weight called limit (removed + 1) more
        | none => reduceEach v symbol weight called limit removed more

/-- Ends a production of `count` symbols in a reading.  This gives new readings; the result is the
first of them, unless all were merged into others. -/
def reduce (v head count : Nat) (weight : Int) (called : List (Option String)) :
    Work (Option Nat) := do
  let m ← get
  let before := m.stack.size
  let (stack, popped) := m.stack.popCount v count
  set { m with stack }
  reduceEach v (tokenCount + head) weight called
    (maxReadings + spareReadings + stack.haltedCount) 0 popped
  let after := (← get).stack.size
  return if before < after then some before else none

/-! ## Accepting -/

/-- Puts the children of the last tree that is no extra in its place, and makes a node of that kind
over the whole row. -/
def rootOf (source : Source) (row : List Subtree) : Option Subtree :=
  let (trees, extras) := Subtree.splitExtras row
  match trees.getLast? with
  | none => none
  | some t =>
    some (.node source t.symbol t.summary.called 0 (trees.dropLast ++ t.children ++ extras))

/-- Takes a tree for the whole text if it is better than the one before. -/
def finishWith (m : Machine) (row : List Subtree) : Machine :=
  let finished := match m.finished, rootOf m.source row with
    | none, root => root
    | some t, none => some t
    | some t, some root => if t.replacedBy root then some root else some t
  { m with finished, accepted := m.accepted + 1 }

def accept (v : Nat) (token : Subtree) : Work Unit := do
  onStack (·.push v (some token) startState)
  let m ← get
  let (stack, popped) := m.stack.popAll v
  let m := (popped.flatMap (·.2)).foldl finishWith { m with stack }
  let stack := match popped with
    | [] => m.stack
    | (w, _) :: _ => m.stack.remove w
  set { m with stack := stack.halt v }

end SiteAudit.Script
