import SiteAudit.Script.Automaton
import SiteAudit.Script.Subtree
/-!
# The stack of a reading

Several readings of a script go on side by side.  Their stacks share what they have in common: a
node has links to the nodes below it, one for each way that leads to it, and each reading has a head
on top.  Nodes are kept in an array and referred to by their numbers.

* `Stack.push` puts a tree on a reading.
* `Stack.merge` joins two readings that have come to the same state.
* `Stack.pop` goes down from a reading along all ways and gives a new reading for each node at which
  it stops.
-/
namespace SiteAudit.Script

/-- A way down to another node.  There is no tree where reading began anew after an error. -/
structure Link where
  node : Nat
  tree : Option Subtree
  deriving Inhabited

structure StackNode where
  /-- The state of the automaton. -/
  state : Nat
  /-- How far the text has been read. -/
  place : Nat := 0
  links : List Link := []
  cost : Nat := 0
  weight : Int := 0
  /-- How far the trees below have brought the reading. -/
  progress : Nat := 0
  deriving Inhabited

/-- A state below an error to which a reading could return. -/
structure Landing where
  place : Nat
  depth : Nat
  state : Nat

/-- Whether a reading goes on. -/
inductive Status where
  | active
  /-- It waits, since a token does not fit. -/
  | paused (token : Subtree)
  | halted
  deriving Inhabited

structure Head where
  node : Nat
  status : Status := .active
  /-- The progress at the last error. -/
  progressAtError : Nat := 0
  landings : Option (List Landing) := none
  deriving Inhabited

structure Stack where
  nodes : Array StackNode
  heads : Array Head
  deriving Inhabited

/-- How many ways may lead down from a node. -/
def maxLinks : Nat := 8

/-- How many ways are followed at once. -/
def maxWays : Nat := 64

/-- Whether two nodes are the same but for the ways that lead to them. -/
def StackNode.agrees (a b : StackNode) : Bool :=
  a.state == b.state && a.place == b.place && a.cost == b.cost

namespace Status

def isActive : Status → Bool
  | active => true
  | _ => false

def isPaused : Status → Bool
  | paused _ => true
  | _ => false

def isHalted : Status → Bool
  | halted => true
  | _ => false

end Status

namespace Link

def weight (l : Link) : Int := (l.tree.map (·.weight)).getD 0

def progress (l : Link) : Nat := (l.tree.map (·.progress)).getD 0

end Link

namespace Stack

/-- One reading, in the first state. -/
def start : Stack := { nodes := #[{ state := startState }], heads := #[{ node := 0 }] }

def size (s : Stack) : Nat := s.heads.size

def head (s : Stack) (v : Nat) : Head := s.heads.getD v default

def node (s : Stack) (n : Nat) : StackNode := s.nodes.getD n default

def top (s : Stack) (v : Nat) : StackNode := s.node (s.head v).node

def state (s : Stack) (v : Nat) : Nat := (s.top v).state

def place (s : Stack) (v : Nat) : Nat := (s.top v).place

def isActive (s : Stack) (v : Nat) : Bool := (s.head v).status.isActive

def isPaused (s : Stack) (v : Nat) : Bool := (s.head v).status.isPaused

def haltedCount (s : Stack) : Nat := (s.heads.filter (·.status.isHalted)).size

def cost (s : Stack) (v : Nat) : Nat :=
  let top := s.top v
  let inError := top.state == errorState && ((top.links.head?.map (·.tree.isNone)).getD true)
  top.cost + if s.isPaused v || inError then costs.recovery else 0

def modifyHead (s : Stack) (v : Nat) (f : Head → Head) : Stack :=
  { s with heads := s.heads.modify v f }

def remove (s : Stack) (v : Nat) : Stack := { s with heads := s.heads.eraseIdxIfInBounds v }

def halt (s : Stack) (v : Nat) : Stack := s.modifyHead v ({ · with status := .halted })

/-- Lets a reading wait with a token. -/
def pause (s : Stack) (v : Nat) (token : Subtree) : Stack :=
  let progress := (s.top v).progress
  s.modifyHead v ({ · with status := .paused token, progressAtError := progress })

def resume (s : Stack) (v : Nat) : Stack := s.modifyHead v ({ · with status := .active })

def swap (s : Stack) (v w : Nat) : Stack := { s with heads := s.heads.swapIfInBounds v w }

def copy (s : Stack) (v : Nat) : Stack :=
  { s with heads := s.heads.push { s.head v with landings := none } }

/-- Lets reading `v` take the place of an earlier one. -/
def replace (s : Stack) (v earlier : Nat) : Stack :=
  if v == earlier then s
  else
    let source := s.head v
    let landings := match source.landings with
      | none => (s.head earlier).landings
      | some l => some l
    (s.modifyHead earlier (fun _ => { source with landings })).remove v

/-- Notes at how much progress a reading stands if it has fallen behind its last error. -/
def settle (s : Stack) (v : Nat) : Stack :=
  let progress := (s.top v).progress
  s.modifyHead v (fun h => { h with progressAtError := min h.progressAtError progress })

/-- The progress of a settled reading since its last error. -/
def progressSinceError (s : Stack) (v : Nat) : Nat :=
  (s.top v).progress - (s.head v).progressAtError

/-- Puts a tree on a reading; without one, reading begins anew after an error. -/
def push (s : Stack) (v : Nat) (tree : Option Subtree) (state : Nat) : Stack :=
  let head := s.head v
  let below := s.node head.node
  let link : Link := ⟨head.node, tree⟩
  let new : StackNode := {
    state, links := [link]
    place := (tree.map (·.summary.stop)).getD below.place
    cost := below.cost + (tree.map (·.cost)).getD 0
    weight := below.weight + link.weight
    progress := below.progress + link.progress }
  let number := s.nodes.size
  { nodes := s.nodes.push new
    heads := s.heads.modify v (fun h => { h with
      node := number
      progressAtError := if tree.isNone then new.progress else h.progressAtError }) }

def pushAll (s : Stack) (v : Nat) (trees : List Subtree) (state : Nat) : Stack :=
  trees.foldl (fun s t => s.push v (some t) state) s

/-! ## Merging -/

/-- Whether two links carry trees that can stand for each other. -/
def linksAgree (source : Source) (a b : Link) : Bool :=
  match a.tree, b.tree with
  | none, none => true
  | some t, some u => t.standsFor source u
  | _, _ => false

/-- What to do with a new link beside those that a node has. -/
inductive Joining where
  /-- Keep the better of two trees between the same nodes. -/
  | choose (index : Nat) (better : Bool)
  /-- Join the nodes below. -/
  | below (node : Nat)
  | append
  deriving Inhabited

/-- Finds how a link joins the links of a node. -/
def joining (source : Source) (s : Stack) (link : Link) : Nat → List Link → Joining
  | _, [] => .append
  | i, l :: more =>
    if linksAgree source l link then
      if l.node == link.node then .choose i (l.weight < link.weight)
      else if (s.node l.node).agrees (s.node link.node) then .below l.node
      else joining source s link (i + 1) more
    else joining source s link (i + 1) more

/-- Adds a link to a node; nodes below that agree are joined as well. -/
def addLink (source : Source) : Nat → Nat → Stack → Link → Stack
  | 0, _, s, _ => s
  | k + 1, n, s, link =>
    if link.node == n then s
    else
      let self := s.node n
      let below := s.node link.node
      let weight := below.weight + link.weight
      match joining source s link 0 self.links with
      | .choose i better =>
        if better then
          { s with nodes := s.nodes.modify n (fun d =>
              { d with links := d.links.set i link, weight }) }
        else s
      | .below m =>
        let s := below.links.foldl (fun s l => addLink source k m s l) s
        { s with nodes := s.nodes.modify n (fun d => { d with weight := max d.weight weight }) }
      | .append =>
        if self.links.length ≥ maxLinks then s
        else
          { s with nodes := s.nodes.modify n (fun d => { d with
              links := d.links ++ [link]
              weight := max d.weight weight
              progress := max d.progress (below.progress + link.progress) }) }

/-- Whether two readings can be merged. -/
def canMerge (s : Stack) (v w : Nat) : Bool :=
  s.isActive v && s.isActive w && (s.top v).agrees (s.top w)

/-- Merges the second reading into the first, if they agree. -/
def merge? (source : Source) (s : Stack) (v w : Nat) : Option Stack :=
  if s.canMerge v w then
    let n := (s.head v).node
    let s' := (s.top w).links.foldl (addLink source (s.nodes.size + 1) n) s
    let top := s'.node n
    let s' := if top.state == errorState then
      s'.modifyHead v ({ · with progressAtError := top.progress }) else s'
    some (s'.remove w)
  else none

/-- Merges a reading into the first of some others that agrees with it. -/
def mergeInto? (source : Source) (s : Stack) (w : Nat) (others : List Nat) : Option Stack :=
  others.findSome? (fun v => s.merge? source v w)

/-! ## Going down -/

/-- A way down: where it has come to, the trees it has passed, and how many of them count. -/
structure Way where
  node : Nat
  trees : List Subtree := []
  depth : Nat := 0

/-- The way along a link. -/
def Way.along (w : Way) (l : Link) : Way :=
  match l.tree with
  | none => { w with node := l.node, depth := w.depth + 1 }
  | some t =>
    { node := l.node, trees := t :: w.trees, depth := if t.isExtra then w.depth else w.depth + 1 }

/-- Takes each way one link further.  `visit` looks at a way and tells whether it ends.  Ways that
part are taken up behind the others; `room` is how many more there may be. -/
def stepWays {σ : Type} (s : Stack) (visit : σ → Way → σ × Bool) :
    List Way → Nat → σ → List Way → List Way → σ × List Way
  | [], _, found, on, parted => (found, on.reverse ++ parted.reverse)
  | w :: more, room, found, on, parted =>
    let (found, ends) := visit found w
    match (s.node w.node).links with
    | [] => stepWays s visit more (room + 1) found on parted
    | l :: others =>
      if ends then stepWays s visit more (room + 1) found on parted
      else
        let new := (others.take room).map w.along
        stepWays s visit more (room - new.length) found (w.along l :: on) (new.reverse ++ parted)

/-- Follows ways until all have ended. -/
def followWays {σ : Type} (s : Stack) (visit : σ → Way → σ × Bool) : Nat → σ → List Way → σ
  | 0, found, _ => found
  | _ + 1, found, [] => found
  | k + 1, found, ways =>
    let (found, ways) := stepWays s visit ways (maxWays - ways.length) found [] []
    followWays s visit k found ways

/-- Follows all ways down from a reading. -/
def walk {σ : Type} (s : Stack) (v : Nat) (visit : σ → Way → σ × Bool) (found : σ) : σ :=
  s.followWays visit (s.nodes.size + 1) found [{ node := (s.head v).node }]

/-- A node at which ways have ended, and the trees of each way. -/
structure Popped where
  node : Nat
  rows : List (List Subtree)

/-- Adds the end of a way. -/
def addPopped (w : Way) : List Popped → List Popped
  | [] => [⟨w.node, [w.trees]⟩]
  | p :: more => if p.node == w.node then ⟨p.node, p.rows ++ [w.trees]⟩ :: more
    else p :: addPopped w more

/-- Goes down from a reading to all nodes at which `ends` holds.  Each gives a new reading, with the
rows of trees that lie above. -/
def pop (s : Stack) (v : Nat) (ends : Way → Bool) :
    Stack × List (Nat × List (List Subtree)) :=
  let found := s.walk v (fun found w =>
    if ends w then (addPopped w found, true) else (found, false)) []
  let progressAtError := (s.head v).progressAtError
  ({ s with
      heads := found.foldl (fun heads p => heads.push { node := p.node, progressAtError }) s.heads },
    found.zipIdx.map (fun (p, i) => (s.size + i, p.rows)))

def popCount (s : Stack) (v count : Nat) : Stack × List (Nat × List (List Subtree)) :=
  s.pop v (fun w => w.depth == count)

def popAll (s : Stack) (v : Nat) : Stack × List (Nat × List (List Subtree)) :=
  s.pop v (fun w => (s.node w.node).links.isEmpty)

/-- Takes skipped text off the top of a reading, if there is any. -/
def popError (s : Stack) (v : Nat) : Stack × Option Subtree :=
  let links := (s.top v).links
  match links.find? (fun l => (l.tree.map (·.isError)).getD false) with
  | none => (s, none)
  | some l =>
    let number := s.size
    let progressAtError := (s.head v).progressAtError
    let s := { s with heads := s.heads.push { node := l.node, progressAtError } }
    (s.replace number v, l.tree)

/-- How deep landings are looked for. -/
def maxLandingDepth : Nat := 16

/-- Adds a landing, unless there is one of the same depth and state. -/
def addLanding (s : Stack) (found : List Landing) (w : Way) : List Landing × Bool :=
  if w.depth > maxLandingDepth then (found, true)
  else
    let node := s.node w.node
    let same := found.takeWhile (fun e => w.depth ≤ e.depth)
    if same.any (fun e => e.depth == w.depth && e.state == node.state) then (found, false)
    else (⟨node.place, w.depth, node.state⟩ :: found, false)

/-- Notes the states to which a reading could return. -/
def recordLandings (s : Stack) (v : Nat) : Stack :=
  let found := s.walk v s.addLanding []
  s.modifyHead v ({ · with landings := some found.reverse })

/-- Whether a reading has passed over text since its last error. -/
def hasAdvanced (s : Stack) (v : Nat) : Bool :=
  let head := s.head v
  (s.node head.node).cost == 0 || go head (s.nodes.size + 1) head.node
where
  go (head : Head) : Nat → Nat → Bool
    | 0, _ => false
    | k + 1, n =>
      let node := s.node n
      match node.links with
      | { node := below, tree := some t } :: _ =>
        if t.summary.lead < t.summary.stop then true
        else if head.progressAtError < node.progress && t.cost == 0 then go head k below
        else false
      | _ => false

end Stack

end SiteAudit.Script
