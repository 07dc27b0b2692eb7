import SiteAudit.Script.Reading
/-!
# Recovery from errors

Where no reading can go on with a token, there are three ways out: a token that is missing is made
up, a reading returns to a state below in which the token is valid, or the token is skipped.  All are
tried, and their costs decide later.

* `potentialReductions` ends all productions that could end.
* `recover` returns to an earlier state and skips a token.
* `handleError` does all of it for a reading that waits.
-/
namespace SiteAudit.Script

/-! ## Ending what could end -/

/-- A production that can end. -/
structure Ending where
  head : Nat
  count : Nat
  weight : Int
  called : List (Option String)

/-- What can be done in a state with some tokens: whether one can be shifted, and which productions
can end. -/
structure Possible where
  shifts : Bool := false
  endings : List Ending := []

/-- Adds an action to what is possible. -/
def Possible.add (p : Possible) : Action → Possible
  | .shift again => { p with shifts := p.shifts || !again }
  | .recover => { p with shifts := true }
  | .reduce head count weight called =>
    if count == 0 || p.endings.any (fun e => e.head == head && e.count == count) then p
    else { p with endings := p.endings ++ [⟨head, count, weight, called⟩] }
  | _ => p

/-- The tokens other than the end of the text. -/
def allTokens : List Nat := (List.range tokenCount).drop 1

/-- Ends all productions that can end with a token, or with any, in a reading and those that come of
it.  Tells whether the token can be shifted then.  `round` counts the readings looked at. -/
def reduceFrom (token : Option Nat) (first initial : Nat) :
    Nat → Nat → Nat → Bool → Work Bool
  | 0, _, _, shifts => return shifts
  | k + 1, round, v, shifts => do
    let m ← get
    let count := m.stack.size
    if count ≤ v then return shifts
    match m.stack.mergeInto? m.source v ((List.range v).drop initial) with
    | some stack =>
      set { m with stack }
      reduceFrom token first initial k (round + 1) v shifts
    | none =>
      let state := m.stack.state v
      let possible := ((token.map ([·])).getD allTokens).foldl
        (fun p t => (m.automaton.actions state t).foldl Possible.add p) ({} : Possible)
      let last ← possible.endings.foldlM
        (fun _ e => reduce v e.head e.count e.weight e.called) none
      let after := if v == first then count else v + 1
      if possible.shifts then reduceFrom token first initial k (round + 1) after true
      else
        match last with
        | some w =>
          if round < maxReadings then
            onStack (·.replace w v)
            reduceFrom token first initial k (round + 1) v shifts
          else
            if token.isSome then onStack (·.remove v)
            reduceFrom token first initial k (round + 1) after shifts
        | none =>
          if token.isSome then onStack (·.remove v)
          reduceFrom token first initial k (round + 1) after shifts

/-- Ends all productions that can end with a token, or with any. -/
def potentialReductions (v : Nat) (token : Option Nat) : Work Bool := do
  reduceFrom token v (← get).stack.size 512 0 v false

/-! ## Returning to an earlier state -/

/-- Puts skipped text on a reading that has come down to the state it returns to. -/
def landOn (w state : Nat) (row : List Subtree) : Work Unit := do
  let m ← get
  let (stack, error) := m.stack.popError w
  let (trees, extras) := Subtree.splitExtras ((error.map (·.children)).getD [] ++ row)
  let stack := if trees.isEmpty then stack
    else
      let text := (Subtree.node m.source skippedText [] (stack.place w) trees).withExtra true
      stack.push w (some text) state
  set { m with stack := stack.pushAll w extras state }

/-- Returns to a state, in all readings that lead down to it; tells whether there was one. -/
def landOnEach (state : Nat) : List (Nat × List (List Subtree)) → Bool → Work Bool
  | [], done => return done
  | (w, rows) :: more, done => do
    if (← get).stack.state w != state then
      onStack (·.halt w)
      landOnEach state more done
    else
      landOn w state (rows.headD [])
      landOnEach state more true

/-- Goes down by some trees and skips them; tells whether that led to the state. -/
def returnTo (v depth state : Nat) : Work Bool := do
  let m ← get
  let (stack, popped) := m.stack.popCount v depth
  set { m with stack }
  landOnEach state popped false

/-- Tries the landings of a reading; tells whether one was taken. -/
def tryLandings (v : Nat) (token : Subtree) (place progress cost count : Nat) :
    List Landing → Work Bool
  | [] => return false
  | l :: more => do
    let m ← get
    let taken := (List.range count).any (fun w =>
      m.stack.state w == l.state && m.stack.place w == place)
    if l.state == errorState || l.place == place || taken then
      tryLandings v token place progress cost count more
    else if ← betterExists v false
        (cost + l.depth * costs.skippedTree + m.source.costBetween l.place place) then
      return false
    else if (m.automaton.actions l.state token.symbol).isEmpty then
      tryLandings v token place progress cost count more
    else if ← returnTo v (if 0 < progress then l.depth + 1 else l.depth) l.state then
      return true
    else tryLandings v token place progress cost count more

/-! ## Skipping -/

def skip (v : Nat) (token : Subtree) (progress : Nat) : Work Unit := do
  let m ← get
  let token := if extras.testBit token.symbol then token.withExtra true else token
  let part := fun trees => Subtree.node m.source skippedPart [] token.summary.lead trees
  if progress == 0 then onStack (·.push v (some (part [token])) errorState)
  else
    let (stack, popped) := m.stack.popCount v 1
    match popped with
    | [] => set { m with stack := stack.push v (some (part [token])) errorState }
    | (w, rows) :: _ =>
      let stack := { stack with heads := stack.heads.take (w + 1) }
      let joined := part (rows.headD [] ++ [part [token]])
      set { m with stack := (stack.replace w v).push v (some joined) errorState }

def removeHalted (first : Nat) (s : Stack) : Stack :=
  { s with heads := s.heads.take first ++ (s.heads.drop first).filter (·.status.isActive) }

/-- Goes on with a token that does not fit in a reading that has met an error. -/
def recover (v : Nat) (token : Subtree) : Work Unit := do
  let count := (← get).stack.size
  let progress ← progressSinceError v
  let m ← get
  let place := m.stack.place v
  let cost := m.stack.cost v
  let landings := if token.isError then [] else ((m.stack.head v).landings).getD []
  let returned ← tryLandings v token place progress cost count landings
  onStack (removeHalted count)
  if token.isEnd then
    let rest := Subtree.node m.source skippedText [] place []
    onStack (·.push v (some rest) startState)
    accept v token
  else if returned && maxReadings < (← get).stack.size then onStack (·.halt v)
  else if ← betterExists v false (cost + costs.skippedTree +
      m.source.costBetween token.summary.lead token.summary.stop) then
    onStack (·.halt v)
  else skip v token progress

/-! ## Handling errors -/

/-- Whether the first thing to do with a token in a state is to end a production. -/
def reducesFirst (a : Automaton) (state token : Nat) : Bool :=
  match a.actions state token with
  | .reduce .. :: _ => true
  | _ => false

/-- Makes up one of some tokens in a copy of a reading, if the next token fits then. -/
def makeUp (v : Nat) (next : Nat) : List Nat → Work Bool
  | [] => return false
  | token :: more => do
    let m ← get
    let state := m.stack.state v
    let behind := m.automaton.nextOfToken state token
    if behind == 0 || behind == state || !reducesFirst m.automaton behind next then
      makeUp v next more
    else
      let place := m.stack.place v
      let copy := m.stack.size
      onStack (fun s => (s.copy v).push copy (some (.made token place)) behind)
      -- before the end of the text, anything may come
      let fits ← potentialReductions copy (if next == 0 then none else some next)
      if fits then return true else makeUp v next more

/-- Lets some readings begin anew, with a token made up in the first one that allows it. -/
def beginAnew (next : Nat) : Bool → List Nat → Work Unit
  | _, [] => return ()
  | made, v :: more => do
    let made ← if made then pure true else makeUp v next allTokens
    onStack (·.push v none errorState)
    beginAnew next made more

def handleError (v : Nat) (token : Subtree) : Work Unit := do
  let before := (← get).stack.size
  let _ ← potentialReductions v none
  let count := (← get).stack.size
  beginAnew token.symbol false (v :: (List.range count).drop before)
  (List.range (count - before)).forM (fun _ => do let _ ← merge v before)
  onStack (·.recordLandings v)
  recover v token

end SiteAudit.Script
