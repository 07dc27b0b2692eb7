/-!
# Patterns

A pattern describes texts: characters and sets of them, one after the other, as alternatives,
repeated, grouped, or as conditions on what stands before or behind.

* `Node` is a pattern; `Flags` are the switches that change what its parts mean.
* `Node.width` gives the least and the greatest length of the texts that a pattern describes.
-/
namespace SiteAudit.Pattern

/-- Classes of characters with a short name. -/
inductive Category where
  | digit
  | space
  | word
  deriving DecidableEq, Repr

/-- A member of a character set, by code points. -/
inductive SetItem where
  | char (code : Nat)
  | range (low high : Nat)
  | category (which : Category) (negated : Bool)
  deriving DecidableEq, Repr

/-- Conditions on a place in the text. -/
inductive Anchor where
  /-- The start of the text, or of a line. -/
  | lineStart
  /-- The end of the text, before a final line end, or the end of a line. -/
  | lineEnd
  | textStart
  | textEnd
  | wordBoundary
  | noWordBoundary
  deriving DecidableEq, Repr

/-- Which repetition is tried first, and whether others are tried at all. -/
inductive Greed where
  | greedy
  | lazy
  | possessive
  deriving DecidableEq, Repr

structure Flags where
  ignoreCase : Bool := false
  multiline : Bool := false
  dotAll : Bool := false
  verbose : Bool := false
  ascii : Bool := false
  unicode : Bool := false
  template : Bool := false
  deriving DecidableEq, Repr

namespace Flags

/-- All switches of either. -/
def or (a b : Flags) : Flags where
  ignoreCase := a.ignoreCase || b.ignoreCase
  multiline := a.multiline || b.multiline
  dotAll := a.dotAll || b.dotAll
  verbose := a.verbose || b.verbose
  ascii := a.ascii || b.ascii
  unicode := a.unicode || b.unicode
  template := a.template || b.template

/-- The switches of `a` that are not in `b`. -/
def without (a b : Flags) : Flags where
  ignoreCase := a.ignoreCase && !b.ignoreCase
  multiline := a.multiline && !b.multiline
  dotAll := a.dotAll && !b.dotAll
  verbose := a.verbose && !b.verbose
  ascii := a.ascii && !b.ascii
  unicode := a.unicode && !b.unicode
  template := a.template && !b.template

def meets (a b : Flags) : Bool :=
  (a.ignoreCase && b.ignoreCase) || (a.multiline && b.multiline) || (a.dotAll && b.dotAll) ||
    (a.verbose && b.verbose) || (a.ascii && b.ascii) || (a.unicode && b.unicode) ||
    (a.template && b.template)

/-- The switches inside a group that turns `on` and `off`; the two ways to classify characters
exclude each other. -/
def within (outer on off : Flags) : Flags :=
  let base :=
    if on.ascii || on.unicode then { outer with ascii := false, unicode := false } else outer
  (base.or on).without off

end Flags

inductive Node where
  | empty
  | char (code : Nat)
  | notChar (code : Nat)
  /-- Any character, line ends only with the switch for it. -/
  | any
  | set (negated : Bool) (items : List SetItem)
  | anchor (a : Anchor)
  | seq (first second : Node)
  | alt (first second : Node)
  /-- A group, which may be numbered and may turn switches on and off. -/
  | group (number : Option Nat) (on off : Flags) (body : Node)
  | repeated (greed : Greed) (least : Nat) (most : Option Nat) (body : Node)
  /-- The text that a group matched. -/
  | backref (number : Nat)
  /-- A condition on what follows. -/
  | ahead (negated : Bool) (body : Node)
  /-- A condition on what precedes; `low` and `high` bound its length. -/
  | behind (negated : Bool) (low high : Nat) (body : Node)
  /-- One of two patterns, by whether a group has matched. -/
  | conditional (number : Nat) (yes no : Node)
  /-- A pattern whose first match is final. -/
  | atomic (body : Node)
  deriving Repr

/-- Lengths are not told apart from here on. -/
def maxWidth : Nat := Nat.pow 2 64

/-- The least and the greatest length of what a pattern matches, given those of the groups. -/
def Node.width (groups : Nat → Nat × Nat) : Node → Nat × Nat
  | .empty => (0, 0)
  | .char _ | .notChar _ | .any | .set .. => (1, 1)
  | .anchor _ | .ahead .. | .behind .. => (0, 0)
  | .seq a b =>
    let (l, h) := a.width groups
    let (l', h') := b.width groups
    (min (l + l') maxWidth, min (h + h') maxWidth)
  | .alt a b =>
    let (l, h) := a.width groups
    let (l', h') := b.width groups
    (min l l', max h h')
  | .group _ _ _ body | .atomic body => body.width groups
  | .repeated _ least most body =>
    let (l, h) := body.width groups
    let high := match most with
      | some m => h * m
      | none => if h = 0 then 0 else maxWidth
    (min (l * least) maxWidth, min high maxWidth)
  | .backref n => groups n
  | .conditional _ yes no =>
    let (l, h) := yes.width groups
    let (l', h') := no.width groups
    (min l l', max h h')

end SiteAudit.Pattern
