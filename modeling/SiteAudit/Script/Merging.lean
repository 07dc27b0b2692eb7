import SiteAudit.Script.Automaton
/-!
# States that are alike

States that have the same items, and differ only in what may follow, are made one, as long as no
token means different things in them and no token of the one would spoil the lexing of the other.
The automaton gets smaller, and readings that differ in what surrounds them can be compared.

* `Automaton.merged` is the automaton with like states made one.
-/
namespace SiteAudit.Script

/-! ## Which states are alike -/

/-- Tokens on which the layout depends.  They are valid in all states that are made one, or in
none. -/
def layoutBits : Nat :=
  (layoutTokens.map (·.name) ++ ["||", "escape_sequence", "regex_pattern"]).foldl
    (fun bits name => bits ||| bit (tokenNumber name)) 0

/-- Texts that go on where another text ends, with something that may also follow that text. -/
def overlaps : List (String × String) :=
  [("++", "+"), ("--", "-"), ("<<", "<"), ("</", "<"), ("/=", "/"), ("/>", "/")]

/-- Whether a token would be found in a place of another one. -/
def Terminal.spoils (new old : Terminal) : Bool :=
  match new.form, old.form with
  | .fixed text, .fixed other =>
    overlaps.contains (text, other) ||
      (isKeyword new && isKeyword old && text != other && text.startsWith other)
  | _, _ => false

/-- The tokens that spoil others, each with those that it spoils. -/
def spoilers : List (Nat × Nat) :=
  (tokens.toList.zipIdx.map (fun (new, n) =>
    (n, tokens.toList.zipIdx.foldl
      (fun bits (old, m) => if new.spoils old then bits ||| bit m else bits) 0))).filter (·.2 != 0)

/-- Whether one of some new tokens cannot be added to others. -/
def spoil (new old : Nat) : Bool :=
  new &&& layoutBits != 0 || spoilers.any (fun (n, bits) => new.testBit n && bits &&& old != 0)

/-- Whether a token that is valid in both states means something else in them. -/
def State.disagrees (s t : State) : Bool :=
  let both := s.valid &&& t.valid
  let changed := (s.complete.zip t.complete).foldl
    (fun bits (e, f) => bits ||| (e.follow ^^^ f.follow)) 0 &&& both
  changed != 0 && (List.range tokenCount).any (fun token =>
    changed.testBit token && s.actions token != t.actions token)

/-- Whether two states with the same items have to stay apart. -/
def State.staysApart (s t : State) : Bool :=
  let both := s.valid &&& t.valid
  spoil (s.valid ^^^ both) t.valid || spoil (t.valid ^^^ both) s.valid || s.disagrees t

/-! ## Groups -/

/-- States in groups, and the group of each state. -/
structure Grouping where
  groups : Array (List Nat)
  groupOf : Array Nat

namespace Grouping

def add (g : Grouping × Std.HashMap (List Nat) Nat) (s : State) (n : Nat) :
    Grouping × Std.HashMap (List Nat) Nat :=
  let (g, numbers) := g
  let core := s.kernel.map (·.item)
  match numbers[core]? with
  | some m => ({ groups := g.groups.modify m (n :: ·), groupOf := g.groupOf.push m }, numbers)
  | none =>
    ({ groups := g.groups.push [n], groupOf := g.groupOf.push g.groups.size },
      numbers.insert core g.groups.size)

/-- Groups states by their items, regardless of what may follow. -/
def ofAutomaton (a : Automaton) : Grouping :=
  let g := (a.zipIdx.foldl (fun g (j, n) => add g j.state n) (⟨#[], #[]⟩, {})).1
  { g with groups := g.groups.map List.reverse }

/-- Takes the states out of a group that stay apart from one before them. -/
def takeOut (apart : Nat → Nat → Bool) : Nat → List Nat → List Nat × List Nat
  | k + 1, n :: more =>
    let (out, stay) := more.partition (apart n)
    let (kept, others) := takeOut apart k stay
    (n :: kept, out ++ others)
  | _, group => (group, [])

def splitOne (apart : Array Nat → Nat → Nat → Bool) (g : Grouping) (m : Nat) : Grouping :=
  let group := g.groups.getD m []
  let (kept, out) := takeOut (apart g.groupOf) group.length group
  if out.isEmpty then g
  else
    { groups := (g.groups.setIfInBounds m kept).push out
      groupOf := out.foldl (fun groupOf n => groupOf.setIfInBounds n g.groups.size) g.groupOf }

/-- Splits all groups from a number on, the new ones included. -/
def splitFrom (apart : Array Nat → Nat → Nat → Bool) : Nat → Nat → Grouping → Grouping
  | 0, _, g => g
  | k + 1, m, g =>
    if m < g.groups.size then splitFrom apart k (m + 1) (g.splitOne apart m) else g

def split (apart : Array Nat → Nat → Nat → Bool) (g : Grouping) : Grouping :=
  splitFrom apart (g.groupOf.size + 1) 0 g

/-- Whether two states lead to different groups. -/
def leadApart (a : Automaton) (groupOf : Array Nat) (n m : Nat) : Bool :=
  ((a.getD n default).nexts.zip (a.getD m default).nexts).any
    (fun (x, y) => groupOf.getD x.2 0 != groupOf.getD y.2 0)

/-- Splits groups until the states of each lead to the same groups. -/
def settle (a : Automaton) : Nat → Grouping → Grouping
  | 0, g => g
  | k + 1, g =>
    let g' := g.split (leadApart a)
    if g'.groups.size == g.groups.size then g else settle a k g'

end Grouping

/-! ## The automaton -/

/-- The groups of states that are alike. -/
def Automaton.grouping (a : Automaton) : Grouping :=
  ((Grouping.ofAutomaton a).split (fun _ n m => (a.state n).staysApart (a.state m))).settle a a.size

/-- One state for a group. -/
def Automaton.join (a : Automaton) (groupOf : Array Nat) (group : List Nat) : Junction :=
  match group with
  | [] => default
  | n :: more =>
    let kernel := more.foldl (fun kernel m =>
      (kernel.zip (a.state m).kernel).map (fun (e, f) => ⟨e.item, e.follow ||| f.follow⟩))
      (a.state n).kernel
    { state := if n == errorState then {} else .ofKernel kernel
      nexts := (a.getD n default).nexts.map (fun (symbol, m) => (symbol, groupOf.getD m 0)) }

def Automaton.joined (a : Automaton) : Automaton :=
  let g := a.grouping
  g.groups.map (a.join g.groupOf)

/-- The automaton of the grammar with like states made one. -/
def Automaton.merged : Thunk Automaton := Thunk.mk (fun _ => Automaton.canonical.get.joined)

end SiteAudit.Script
