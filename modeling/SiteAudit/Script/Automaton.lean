import SiteAudit.Script.Grammar.Production
/-!
# The automaton of the grammar

A state is a set of items: productions with a place in them, each with the tokens that may follow.

* `State.actions` says what a state does with a token.  Where a token could both be shifted and end
  a production, precedence decides, then the side that the production leans to; what is still open
  is kept, and all of it is tried.
* `Automaton.next` is the state behind a symbol.
* `Automaton.canonical` has a state for each set of items.
-/
namespace SiteAudit.Script

/-! ## Items -/

/-- A production with a place in it.  Productions that agree in what is to come, and in the names of
what has passed, share their items. -/
structure Item where
  head : Nat
  /-- How many symbols have passed. -/
  dot : Nat
  weight : Int
  /-- Names given to what has passed. -/
  called : List (Option String)
  /-- The precedence and the side of the last symbol passed. -/
  level : Binding
  side : Option Side
  /-- What is to come. -/
  rest : List Step
  deriving BEq, Hashable, Inhabited

namespace Item

def ofProduction (p : Production) : Item :=
  { head := p.head, dot := 0, weight := p.weight, called := [], level := .plain, side := none
    rest := p.steps }

def advance (i : Item) : Item :=
  match i.rest with
  | [] => i
  | s :: more =>
    { i with dot := i.dot + 1, called := i.called ++ [s.called], level := s.level, side := s.side
             rest := more }

def onward (i : Item) : List Step → List Item
  | [] => [i]
  | _ :: more => i :: onward i.advance more

end Item

/-- The head of the item that stands for a whole script. -/
def startHead : Nat := names.size

def startItem : Item :=
  { head := startHead, dot := 0, weight := 0, called := [], level := .plain, side := none
    rest := [{ symbol := symbolNumber "program" }] }

/-- All items, numbered. -/
def itemNumbers : Std.HashMap Item Nat × Array Item :=
  ((startItem :: productions.toList.map Item.ofProduction).flatMap (fun i => i.onward i.rest)).foldl
    (fun (numbers, items) i =>
      if numbers.contains i then (numbers, items) else (numbers.insert i items.size, items.push i))
    (Std.HashMap.emptyWithCapacity 4096, #[])

def items : Array Item := itemNumbers.2

def itemNumber (i : Item) : Nat := itemNumbers.1.getD i 0

def advanced : Array Nat := items.map (fun i => itemNumber i.advance)

/-- The numbers of the first items of each symbol that is no token. -/
def firstItems : Array (List Nat) :=
  productionsOf.map (fun ps => (ps.map (fun p =>
    itemNumber (Item.ofProduction (productions.getD p default)))).eraseDups)

/-- Items that an item brings with it: each with tokens that may follow, and whether what follows
the first symbol of the item follows it too. -/
structure Addition where
  item : Nat
  tokens : Nat
  inherits : Bool
  deriving Inhabited

/-- What is known about the symbols that still have to be looked at. -/
structure Pending where
  head : Nat
  tokens : Nat
  inherits : Bool

/-- Notes that an item comes with some tokens behind it; tells whether that is new. -/
def note (known : Array (Nat × Bool)) (item tokens : Nat) (inherits : Bool) :
    Array (Nat × Bool) × Bool :=
  let (t, i) := known.getD item (0, false)
  let t' := t ||| tokens
  let i' := i || inherits
  if t' == t && i' == i then (known, false) else (known.setIfInBounds item (t', i'), true)

/-- Notes the first items of a symbol, and what they bring with them. -/
def noteItems (p : Pending) : List Nat → Array (Nat × Bool) → List Pending →
    Array (Nat × Bool) × List Pending
  | [], known, pending => (known, pending)
  | item :: more, known, pending =>
    let (known, new) := note known item p.tokens p.inherits
    let pending :=
      if new then
        match (items.getD item default).rest with
        | s :: after =>
          if s.symbol < tokenCount then pending
          else
            let head := s.symbol - tokenCount
            match after with
            | t :: _ => ⟨head, first t, false⟩ :: pending
            | [] => ⟨head, p.tokens, p.inherits⟩ :: pending
        | [] => pending
      else pending
    noteItems p more known pending

/-- Looks at all that is pending. -/
def noteAll : Nat → Array (Nat × Bool) → List Pending → Array (Nat × Bool)
  | 0, known, _ => known
  | _ + 1, known, [] => known
  | k + 1, known, p :: more =>
    let (known, pending) := noteItems p (firstItems.getD p.head []) known more
    noteAll k known pending

/-- The items that a symbol brings with it. -/
def additionsOf (head : Nat) : List Addition :=
  let known := noteAll 100000 (Array.replicate items.size (0, false)) [⟨head, 0, true⟩]
  known.toList.zipIdx.filterMap (fun ((t, i), item) =>
    if t == 0 && !i then none else some ⟨item, t, i⟩)

def additions : Array (List Addition) := (Array.range names.size).map additionsOf

/-! ## States -/

/-- An item with the tokens that may follow its production. -/
structure Entry where
  item : Nat
  follow : Nat
  deriving BEq, Hashable, Inhabited

structure State where
  /-- Items that have begun. -/
  kernel : List Entry := []
  /-- All items. -/
  entries : Array Entry := #[]
  /-- The tokens that can be shifted. -/
  shifts : Nat := 0
  /-- Items that are complete, those with fewer symbols first. -/
  complete : List Entry := []
  /-- All tokens that have a use here. -/
  valid : Nat := 0
  /-- Whether reserved words are no names here. -/
  reserves : Bool := false
  deriving Inhabited

/-- The items that an entry brings with it, in their order. -/
def bring (e : Entry) : List Entry :=
  match (items.getD e.item default).rest with
  | [] => []
  | s :: after =>
    if s.symbol < tokenCount then []
    else
      let behind := match after with
        | t :: _ => first t
        | [] => e.follow
      (additions.getD (s.symbol - tokenCount) []).map (fun a =>
        ⟨a.item, if a.inherits then a.tokens ||| behind else a.tokens⟩)

/-- Whether an entry comes before another one. -/
def Entry.before (e f : Entry) : Bool := e.item ≤ f.item

def joinEntries (sorted : List Entry) : List Entry :=
  sorted.foldr (fun e more =>
    match more with
    | d :: rest => if d.item == e.item then ⟨d.item, d.follow ||| e.follow⟩ :: rest else e :: more
    | [] => [e]) []

/-- Numbers of tokens with a special part. -/
def commentToken : Nat := tokenNumber "comment"
def markupCommentToken : Nat := tokenNumber "html_comment"

/-- Tokens that may stand anywhere. -/
def extras : Nat := bit commentToken ||| bit markupCommentToken

/-- The rules for reserved words in a state: a name that is to come, or that may follow, forbids
them unless one of the places is that of a property. -/
def reservesIn (entries : Array Entry) : Bool :=
  let (name, property) := entries.foldl (fun (name, property) e =>
    match (items.getD e.item default).rest with
    | s :: _ =>
      if s.symbol == identifierToken then (true, property || s.property) else (name, property)
    | [] =>
      if e.follow.testBit identifierToken then (true, property || e.follow.testBit propertyBit)
      else (name, property)) (false, false)
  name && !property

/-- The state with the given items. -/
def State.ofKernel (kernel : List Entry) : State :=
  let brought := kernel.foldl (fun found e => found.merge (bring e) Entry.before) []
  let entries := (kernel ++ joinEntries brought).toArray
  let shifts := entries.foldl (fun bits e =>
    match (items.getD e.item default).rest with
    | s :: _ => if s.symbol < tokenCount then bits ||| bit s.symbol else bits
    | [] => bits) 0
  let complete := entries.toList.filter (fun e => (items.getD e.item default).rest.isEmpty)
  let ordered := complete.mergeSort (fun a b =>
    let i := items.getD a.item default
    let j := items.getD b.item default
    i.dot < j.dot || (i.dot == j.dot && i.head ≤ j.head))
  { kernel, entries, shifts, complete := ordered
    valid := complete.foldl (fun bits e => bits ||| e.follow) (shifts ||| extras)
    reserves := reservesIn entries }

/-! ## Actions -/

/-- What can be done with a token. -/
inductive Action where
  /-- Take the token; `again` marks a repetition that is joined first. -/
  | shift (again : Bool)
  /-- Take the token without a change of state. -/
  | extra
  /-- End a production of some symbols. -/
  | reduce (head count : Nat) (weight : Int) (called : List (Option String))
  | accept
  /-- Take the token as a part of an error. -/
  | recover
  deriving BEq, Inhabited

/-- Whether an entry of an order of precedence speaks of a level or of one of some symbols. -/
def Rank.speaksOf (r : Rank) (level : Binding) (heads : List Nat) : Bool :=
  match r with
  | .level name => level == .named name
  | .rule name => heads.any (fun h => names.getD h "" == name)

/-- Compares within one order of precedence; `left` and `right` tell which side was met. -/
def compareIn (l r : Rank → Bool) : Bool → Bool → List Rank → Option Ordering
  | _, _, [] => none
  | left, right, rank :: more =>
    if l rank then if right then some .lt else compareIn l r true right more
    else if r rank then if left then some .gt else compareIn l r left true more
    else compareIn l r left right more

/-- Compares two precedences: the first order that speaks of both decides. -/
def comparePrecedence (level : Binding) (heads : List Nat) (level' : Binding) (heads' : List Nat) :
    Ordering :=
  (orders.findSome?
    (compareIn (·.speaksOf level heads) (·.speaksOf level' heads') false false)).getD .eq

/-- The productions that a token ends, with what is known about them. -/
structure Reductions where
  actions : List Action := []
  level : Binding := .plain
  heads : List Nat := []
  left : Bool := false
  right : Bool := false
  neither : Bool := false

/-- Adds a complete item; one of higher precedence takes the place of those before. -/
def Reductions.add (r : Reductions) (i : Item) : Reductions :=
  let action := if i.head == startHead then Action.accept
    else Action.reduce i.head i.dot i.weight i.called
  let noted := fun (r : Reductions) =>
    { r with
      level := i.level
      heads := if r.heads.contains i.head then r.heads else r.heads ++ [i.head]
      left := r.left || i.side == some .left
      right := r.right || i.side == some .right
      neither := r.neither || i.side == none }
  if r.actions.isEmpty then noted { r with actions := [action] }
  else match comparePrecedence i.level [i.head] r.level r.heads with
    | .gt => noted { actions := [action] }
    | .eq => noted { r with actions := r.actions ++ [action] }
    | .lt => r

/-- Whether an item that has begun can go on with a token. -/
def Item.awaits (i : Item) (token : Nat) : Bool :=
  match i.rest with
  | s :: _ => 0 < i.dot && (first s).testBit token
  | [] => false

/-- Decides between a shift and reductions. -/
def decideShift (s : State) (token : Nat) (r : Reductions) : List Action :=
  let kernel := s.kernel.map (fun e => (items.getD e.item default, e.follow))
  let waiting := (kernel.map (·.1)).filter (·.awaits token)
  let involved := kernel.filterMap (fun (i, follow) =>
    if i.head != startHead && (i.awaits token || (i.rest.isEmpty && follow.testBit token)) then
      some i.head
    else none)
  let repetition := match involved with
    | [] => false
    | h :: more => isRepeat h && more.all (· == h)
  if repetition then r.actions ++ [.shift true]
  else
    let orderings := waiting.map (fun i => comparePrecedence i.level [i.head] r.level r.heads)
    let more := orderings.contains .gt
    let less := orderings.contains .lt
    if more && !less then [.shift false]
    else if less && !more then r.actions
    else if !more && !less && r.left && !r.neither && !r.right then r.actions
    else if !more && !less && r.right && !r.neither && !r.left then [.shift false]
    else r.actions ++ [.shift false]

def State.actions (s : State) (token : Nat) : List Action :=
  let r := s.complete.foldl (fun (r : Reductions) e =>
    if e.follow.testBit token then r.add (items.getD e.item default) else r) {}
  if s.shifts.testBit token then
    if r.actions.isEmpty then [.shift false] else decideShift s token r
  else if r.actions.isEmpty then if extras.testBit token then [.extra] else []
  else r.actions

/-! ## The automaton -/

/-- A state with the states behind it. -/
structure Junction where
  state : State
  /-- Symbols and the numbers of the states behind them. -/
  nexts : List (Nat × Nat) := []
  deriving Inhabited

/-- An automaton: its states by their numbers. -/
abbrev Automaton := Array Junction

/-- The state of errors, in which nothing is expected. -/
def errorState : Nat := 0

/-- The state at the beginning. -/
def startState : Nat := 1

/-- Tokens that are looked for where nothing is expected. -/
def errorTokens : Nat :=
  tokens.toList.zipIdx.foldl (fun bits (t, n) =>
    if t.form.isContextual then bits else bits ||| bit n) (bit markupCommentToken)

namespace Automaton

def state (a : Automaton) (n : Nat) : State := (a.getD n default).state

/-- The state behind a state and a symbol; `0` where there is none. -/
def next (a : Automaton) (n symbol : Nat) : Nat :=
  (((a.getD n default).nexts.find? (·.1 == symbol)).map (·.2)).getD 0

/-- What a state does with a token, the state of errors included. -/
def actions (a : Automaton) (n token : Nat) : List Action :=
  if n == errorState then
    if extras.testBit token then [.extra]
    else if errorTokens.testBit token then [.recover] else []
  else (a.state n).actions token

/-- The state behind a token, `0` for none.  Extras do not change the state. -/
def nextOfToken (a : Automaton) (n token : Nat) : Nat :=
  match (a.actions n token).getLast? with
  | some (.shift _) => a.next n token
  | some .extra => n
  | _ => 0

end Automaton

/-! ## Construction -/

/-- All symbols in the order in which states are made: tokens of the layout first. -/
def symbolOrder : List Nat :=
  let (layout, others) := (List.range (tokenCount + names.size)).partition
    (fun n => n < tokenCount && (tokens.getD n default).form == .layout)
  layout ++ others

/-- The items behind each symbol. -/
def State.behind (s : State) : List (Nat × List Entry) :=
  let table := s.entries.foldl (fun table e =>
    match (items.getD e.item default).rest with
    | step :: _ => table.modify step.symbol ((⟨advanced.getD e.item 0, e.follow⟩ : Entry) :: ·)
    | [] => table) (Array.replicate (tokenCount + names.size) [])
  symbolOrder.filterMap (fun symbol =>
    match table.getD symbol [] with
    | [] => none
    | found => some (symbol, joinEntries (found.mergeSort Entry.before)))

/-- An automaton under construction. -/
structure Construction where
  junctions : Array Junction
  /-- The numbers of states by their items. -/
  numbers : Std.HashMap (List Entry) Nat

namespace Construction

/-- The number of the state with given items, which is made if it is new. -/
def number (c : Construction) (kernel : List Entry) : Construction × Nat :=
  match c.numbers[kernel]? with
  | some n => (c, n)
  | none =>
    let n := c.junctions.size
    ({ junctions := c.junctions.push { state := .ofKernel kernel }
       numbers := c.numbers.insert kernel n }, n)

/-- Makes the states behind a state. -/
def extend (c : Construction) (n : Nat) : Construction :=
  let (c, nexts) := ((c.junctions.getD n default).state.behind).foldl
    (fun (c, nexts) (symbol, kernel) =>
      let (c, m) := c.number kernel
      (c, (symbol, m) :: nexts)) (c, [])
  { c with junctions := c.junctions.modify n ({ · with nexts := nexts.reverse }) }

/-- Makes all states, from a number on. -/
def extendFrom : Nat → Nat → Construction → Construction
  | 0, _, c => c
  | k + 1, n, c => if n < c.junctions.size then extendFrom k (n + 1) (c.extend n) else c

/-- The state of errors and the state at the beginning. -/
def start : Construction :=
  let kernel : List Entry := [⟨itemNumber startItem, bit 0⟩]
  { junctions := #[{ state := {} }, { state := .ofKernel kernel }]
    numbers := Std.HashMap.ofList [([], errorState), (kernel, startState)] }

end Construction

/-- The automaton with a state for each set of items. -/
def Automaton.canonical : Thunk Automaton :=
  Thunk.mk (fun _ => (Construction.start.extendFrom 100000 startState).junctions)

end SiteAudit.Script
