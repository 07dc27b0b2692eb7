import SiteAudit.Script.Grammar.Production
import SiteAudit.Script.Source
import SiteAudit.Script.SyntaxNode
/-!
# Trees under construction

While a script is read there are trees for its parts, with hidden nodes for repetitions and groups.
Each node carries what is needed to weigh readings against each other.

* `Subtree.node` sums up the children of a new node; what could not be fitted in has a cost.
* `Subtree.replacedBy` says which of two readings of the same text is better.
* `Subtree.toSyntaxNodes` shows a tree without its hidden nodes.
-/
namespace SiteAudit.Script

/-! ## Costs -/

/-- The costs of what could not be fitted in. -/
structure Costs where
  /-- A place at which reading went wrong. -/
  recovery : Nat
  /-- A token that was made up. -/
  missing : Nat
  skippedTree : Nat
  skippedByte : Nat
  skippedLine : Nat

def costs : Costs :=
  { recovery := 500, missing := 110, skippedTree := 100, skippedByte := 1, skippedLine := 30 }

/-- The cost of passing over the text between two places. -/
def Source.costBetween (s : Source) (start stop : Nat) : Nat :=
  costs.skippedByte * s.bytesBetween start stop + costs.skippedLine * s.rowsBetween start stop

/-! ## Trees -/

/-- The symbol of a part of skipped text; it joins with its neighbours. -/
def skippedPart : Nat := tokenCount + names.size

/-- The symbol of skipped text. -/
def skippedText : Nat := skippedPart + 1

/-- Whether text of a symbol was skipped. -/
def isSkipped (symbol : Nat) : Bool := symbol == skippedText || symbol == skippedPart

/-- For every symbol, whether it has nodes of its own. -/
def visibility : Array Bool := (Array.range skippedPart).map isVisible ++ #[false, true]

/-- What is known about a tree. -/
structure Summary where
  symbol : Nat
  /-- The place behind the tree before. -/
  lead : Nat
  /-- Where the text of the tree begins, behind what separates it from the tree before. -/
  start : Nat
  stop : Nat
  /-- Whether the tree may stand anywhere. -/
  extra : Bool := false
  /-- Whether the tree stands for a token that was made up. -/
  missing : Bool := false
  /-- Whether the text of a name could be a keyword. -/
  keyword : Bool := false
  /-- Other names for the children that are no extras. -/
  called : List (Option String) := []
  cost : Nat := 0
  weight : Int := 0
  /-- How many nodes of their own its hidden levels show. -/
  shownChildren : Nat := 0
  /-- How many nodes of their own there are below it. -/
  shownBelow : Nat := 0
  deriving Inhabited

inductive Subtree where
  | mk (summary : Summary) (children : List Subtree)
  deriving Inhabited

namespace Subtree

def summary : Subtree → Summary
  | mk s _ => s

def children : Subtree → List Subtree
  | mk _ c => c

def symbol (t : Subtree) : Nat := t.summary.symbol

def isExtra (t : Subtree) : Bool := t.summary.extra

def cost (t : Subtree) : Nat := t.summary.cost

def weight (t : Subtree) : Int := t.summary.weight

/-- Whether the tree is skipped text as a whole. -/
def isError (t : Subtree) : Bool := t.symbol == skippedText

/-- Whether the tree is the end of the text. -/
def isEnd (t : Subtree) : Bool := t.symbol == 0

def isShown (t : Subtree) : Bool := visibility.getD t.symbol false

/-- How far a tree brings a reading forward. -/
def progress (t : Subtree) : Nat :=
  t.summary.shownBelow + (if t.isShown then 1 else 0) + (if t.symbol == skippedPart then 1 else 0)

def withExtra (t : Subtree) (extra : Bool) : Subtree :=
  mk { t.summary with extra } t.children

def withSymbol (t : Subtree) (symbol : Nat) : Subtree :=
  mk { t.summary with symbol } t.children

def withWeight (t : Subtree) (weight : Int) : Subtree :=
  mk { t.summary with weight } t.children

/-- A token; the end of the text is an extra. -/
def leaf (symbol lead start stop : Nat) (keyword : Bool) : Subtree :=
  mk { symbol, lead, start, stop, keyword, extra := symbol == 0 } []

def made (symbol place : Nat) : Subtree :=
  mk { symbol, lead := place, start := place, stop := place, missing := true
       cost := costs.missing + costs.recovery } []

/-- What a tree costs where it is skipped. -/
def skipCost (t : Subtree) : Nat :=
  if t.isExtra || (t.isError && t.children.isEmpty) then 0
  else if t.isShown then costs.skippedTree
  else costs.skippedTree * t.summary.shownChildren

/-- Adds a child to what is known about a node; `called` holds the names for the children to
come. -/
def count (symbol : Nat) (s : Summary × List (Option String)) (t : Subtree) :
    Summary × List (Option String) :=
  let (s, called) := s
  let named := !t.isExtra && t.symbol != 0 && (called.head?.getD none).isSome
  let shown := named || t.isShown
  ({ s with
      stop := t.summary.stop
      cost := s.cost + (if t.symbol == skippedPart then 0 else t.cost) +
        (if isSkipped symbol then t.skipCost else 0)
      weight := s.weight + t.weight
      shownChildren := s.shownChildren + (if shown then 1 else t.summary.shownChildren)
      shownBelow := s.shownBelow + t.summary.shownBelow + (if shown then 1 else 0) },
    if t.isExtra then called else called.drop 1)

/-- A node over some children; without any it stands at `place`. -/
def node (source : Source) (symbol : Nat) (called : List (Option String)) (place : Nat)
    (children : List Subtree) : Subtree :=
  let (lead, start) := match children with
    | [] => (place, place)
    | t :: _ => (t.summary.lead, t.summary.start)
  let blank : Summary := { symbol, lead, start, stop := start, called }
  let s := (children.foldl (count symbol) (blank, called)).1
  let own := if isSkipped symbol then costs.recovery + source.costBetween s.start s.stop else 0
  mk { s with cost := s.cost + own } children

/-- Cuts off the extras at the end of a row of trees. -/
def splitExtras (trees : List Subtree) : List Subtree × List Subtree :=
  let extras := (trees.reverse.takeWhile isExtra).reverse
  (trees.take (trees.length - extras.length), extras)

/-! ## Choosing between trees -/

mutual

/-- An order of trees by their symbols and their numbers of children, from the top. -/
def order : Subtree → Subtree → Ordering
  | mk a as, mk b bs =>
    (compare a.symbol b.symbol).then ((compare as.length bs.length).then (orderAll as bs))

def orderAll : List Subtree → List Subtree → Ordering
  | a :: as, b :: bs => (order a b).then (orderAll as bs)
  | _, _ => .eq

end

/-- Whether another tree over the same text is better: one of lower cost, then one of higher weight,
then one that comes first in the order. -/
def replacedBy (t other : Subtree) : Bool :=
  if other.cost != t.cost then other.cost < t.cost
  else if other.weight != t.weight then t.weight < other.weight
  else if t.cost != 0 then true
  else t.order other == .gt

/-- Whether two trees can stand for each other. -/
def standsFor (source : Source) (t other : Subtree) : Bool :=
  t.symbol == other.symbol &&
    ((t.cost != 0 && other.cost != 0) ||
      (source.bytesBetween t.summary.lead t.summary.start ==
          source.bytesBetween other.summary.lead other.summary.start &&
        source.bytesBetween t.summary.start t.summary.stop ==
          source.bytesBetween other.summary.start other.summary.stop &&
        t.children.length == other.children.length && t.isExtra == other.isExtra))

/-! ## Showing trees -/

/-- How the node of a tree is called. -/
def kind (t : Summary) : String :=
  if t.symbol == skippedText then SyntaxNode.errorKind else symbolName t.symbol

mutual

/-- The nodes that a tree shows: its own, or those of its children. -/
def toSyntaxNodes (source : Source) (name : Option String) : Subtree → List SyntaxNode
  | mk s children =>
    let inner := listToSyntaxNodes source s.called children
    if name.isSome || visibility.getD s.symbol false then
      [.mk (name.getD (kind s)) s.missing (s.cost != 0) (source.row s.start) (source.column s.start)
        (source.byte s.start) (source.byte s.stop) inner]
    else inner

def listToSyntaxNodes (source : Source) (called : List (Option String)) :
    List Subtree → List SyntaxNode
  | [] => []
  | t :: more =>
    if t.isExtra then t.toSyntaxNodes source none ++ listToSyntaxNodes source called more
    else
      t.toSyntaxNodes source (if t.symbol == 0 then none else called.head?.getD none) ++
        listToSyntaxNodes source called.tail more

end

end Subtree

end SiteAudit.Script
