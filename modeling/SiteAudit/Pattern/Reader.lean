import SiteAudit.Pattern.Fault
import SiteAudit.Text.Name
/-!
# Reading patterns

A pattern is read from its text, token by token: a token is one character, or a backslash and the
character behind it.  Reading keeps the switches that are on, the groups that were opened, and how
long their texts can be.

* `Reader.sequence` reads items up to a bar, a closing bracket or the end; `Reader.alternatives`
  reads sequences with bars between them.
* `Node.refused?` finds what can be read and still is no pattern.
* `compile` reads a whole text and answers with a pattern or the first fault.
-/
namespace SiteAudit.Pattern

/-- A pattern with its outermost switches. -/
structure Compiled where
  root : Node
  flags : Flags
  deriving Repr

/-- Characters by their names, which patterns may use. -/
abbrev CharNames := List Char → Option Nat

structure Reader where
  charNames : CharNames
  /-- The whole text. -/
  text : List Char
  /-- Where the next token begins. -/
  position : Nat := 0
  /-- The next token; none at the end. -/
  next : Option (List Char) := none
  /-- The text behind the next token. -/
  rest : List Char := []
  flags : Flags := {}
  /-- For each group opened, the lengths of its texts once it is closed; the whole is group 0. -/
  groups : List (Option (Nat × Nat)) := [none]
  names : List (List Char × Nat) := []
  /-- Inside a look behind, how many groups there were before it. -/
  behindGroups : Option Nat := none
  /-- Groups that conditions refer to, with the place of the first such condition. -/
  conditions : List (Nat × Nat) := []

namespace Reader

/-- Reading steps: they change the reader or end with a fault. -/
abbrev Read := StateT Reader (Except Fault)

/-- Ends with a fault `offset` characters before the next token. -/
def fault {α : Type} (cause : Cause) (offset : Nat := 0) : Read α := do
  let r ← get
  throw { cause, position := some (r.position - offset), pattern := r.text }

def advance : Read Unit := do
  let r ← get
  let position := r.position + (r.next.map List.length).getD 0
  match r.rest with
  | [] => set { r with position, next := none }
  | ['\\'] =>
    throw { cause := .backslashAtEnd, position := some (r.text.length - 1), pattern := r.text }
  | '\\' :: c :: rest => set { r with position, next := some ['\\', c], rest }
  | c :: rest => set { r with position, next := some [c], rest }

def take : Read (Option (List Char)) := do
  let r ← get
  advance
  return r.next

/-- Takes the next token when it is the character `c`. -/
def accept (c : Char) : Read Bool := do
  let r ← get
  if r.next == some [c] then
    advance
    return true
  else return false

/-- Takes at most `n` characters that satisfy `p`. -/
def takeSome (p : Char → Bool) : Nat → Read (List Char)
  | 0 => return []
  | n + 1 => do
    match (← get).next with
    | some [c] =>
      if p c then
        advance
        return c :: (← takeSome p n)
      else return []
    | _ => return []

/-- Takes tokens up to `terminator`, which is taken too, and gives their text. -/
def takeUntil (terminator : Char) (what : String) (found : List Char) : Nat → Read (List Char)
  | 0 => return found
  | n + 1 => do
    match ← take with
    | none =>
      if found.isEmpty then fault (.missing what)
      else fault (.missingTerminator terminator.toString) found.length
    | some token =>
      if token == [terminator] then
        if found.isEmpty then fault (.missing what) 1 else return found
      else takeUntil terminator what (found ++ token) n

/-- As many steps as any reading of single tokens can take. -/
def steps : Read Nat := do return (← get).text.length + 1

/-! ## Groups -/

def groupCount : Read Nat := do return (← get).groups.length

def openGroup (name : Option (List Char)) : Read Nat := do
  let r ← get
  let number := r.groups.length
  match name with
  | none => set { r with groups := r.groups ++ [none] }
  | some n =>
    match r.names.lookup n with
    | some before => fault (.redefinedGroup n number before) (n.length + 1)
    | none => set { r with groups := r.groups ++ [none], names := (n, number) :: r.names }
  return number

/-- The lengths of a group's texts; nothing is known of a group that is open. -/
def groupWidth (groups : List (Option (Nat × Nat))) (n : Nat) : Nat × Nat :=
  (groups.getD n none).getD (0, 0)

def widthOf (node : Node) : Read (Nat × Nat) := do
  return node.width (groupWidth (← get).groups)

def closeGroup (number : Nat) (body : Node) : Read Unit := do
  let w ← widthOf body
  modify (fun r => { r with groups := r.groups.set number (some w) })

def groupClosed (number : Nat) : Read Bool := do
  return ((← get).groups.getD number none).isSome

/-- A look behind may refer only to groups closed before it. -/
def checkBehind (number : Nat) : Read Unit := do
  match (← get).behindGroups with
  | none => return
  | some before =>
    if !(← groupClosed number) then fault .openGroup
    else if before ≤ number then fault .lookBehindGroup

def checkName (name : List Char) : Read Unit := do
  if !Text.isName name then fault (.badGroupName name) (name.length + 1)

/-! ## Escapes -/

def isDigit (c : Char) : Bool := '0' ≤ c && c ≤ '9'
def isOctal (c : Char) : Bool := '0' ≤ c && c ≤ '7'
def isHex (c : Char) : Bool := isDigit c || ('a' ≤ c && c ≤ 'f') || ('A' ≤ c && c ≤ 'F')
def isLetter (c : Char) : Bool := ('a' ≤ c && c ≤ 'z') || ('A' ≤ c && c ≤ 'Z')

def digitOf (c : Char) : Nat :=
  if isDigit c then c.toNat - 48 else if 'a' ≤ c then c.toNat - 87 else c.toNat - 55

def valueIn (base : Nat) (digits : List Char) : Nat :=
  digits.foldl (fun n c => base * n + digitOf c) 0

/-- The control characters with a letter of their own. -/
def controlOf? : Char → Option Nat
  | 'a' => some 7
  | 'b' => some 8
  | 'f' => some 12
  | 'n' => some 10
  | 'r' => some 13
  | 't' => some 9
  | 'v' => some 11
  | '\\' => some 92
  | _ => none

/-- The classes of characters with a letter of their own. -/
def categoryOf? : Char → Option SetItem
  | 'd' => some (.category .digit false)
  | 'D' => some (.category .digit true)
  | 's' => some (.category .space false)
  | 'S' => some (.category .space true)
  | 'w' => some (.category .word false)
  | 'W' => some (.category .word true)
  | _ => none

def anchorOf? : Char → Option Anchor
  | 'A' => some .textStart
  | 'b' => some .wordBoundary
  | 'B' => some .noWordBoundary
  | 'Z' => some .textEnd
  | _ => none

/-- The greatest number that can stand for a character at all. -/
def maxWord : Nat := 0x7FFFFFFF

def hexEscape (c : Char) (count : Nat) : Read Nat := do
  let digits ← takeSome isHex count
  let escape := '\\' :: c :: digits
  if digits.length != count then fault (.incompleteEscape escape) escape.length
  else
    let n := valueIn 16 digits
    if maxWord < n then
      throw { cause := .numberTooLarge, position := none, pattern := (← get).text }
    else if 0x10FFFF < n then fault (.badEscape escape) escape.length
    else return n

def namedEscape : Read Nat := do
  if !(← accept '{') then fault .missingBrace
  else
    let name ← takeUntil '}' "character name" [] (← steps)
    match (← get).charNames name with
    | some n => return n
    | none => fault (.undefinedName name) (name.length + 4)

/-- An escape that means the same inside and outside of sets. -/
def plainEscape (c : Char) : Read Nat := do
  match c with
  | 'x' => hexEscape c 2
  | 'u' => hexEscape c 4
  | 'U' => hexEscape c 8
  | 'N' => namedEscape
  | _ => if isLetter c || isDigit c then fault (.badEscape ['\\', c]) 2 else return c.toNat

def setEscape (c : Char) : Read SetItem := do
  match controlOf? c with
  | some n => return .char n
  | none =>
    match categoryOf? c with
    | some item => return item
    | none =>
      if isOctal c then
        let digits := c :: (← takeSome isOctal 2)
        let n := valueIn 8 digits
        if 0o377 < n then fault (.octalTooLarge ('\\' :: digits)) (digits.length + 1)
        else return .char n
      else return .char (← plainEscape c)

/-- A reference to a group by number, or a character by octal digits. -/
def numberEscape (c : Char) : Read Node := do
  let second ← takeSome isDigit 1
  let digits := c :: second
  let third ← match second with
    | [d] =>
      match (← get).next with
      | some [e] => if isOctal c && isOctal d && isOctal e then takeSome isOctal 1 else pure []
      | _ => pure []
    | _ => pure []
  if !third.isEmpty then
    let digits := digits ++ third
    let n := valueIn 8 digits
    if 0o377 < n then fault (.octalTooLarge ('\\' :: digits)) (digits.length + 1)
    else return .char n
  else
    let n := valueIn 10 digits
    if n < (← groupCount) then
      if !(← groupClosed n) then fault .openGroup (digits.length + 1)
      else
        checkBehind n
        return .backref n
    else fault (.invalidGroup n) digits.length

def escape (c : Char) : Read Node := do
  match anchorOf? c, categoryOf? c, controlOf? c with
  | some a, _, _ => return .anchor a
  | none, some item, _ => return .set false [item]
  | none, none, some n => return .char n
  | none, none, none =>
    if c == '0' then return .char (valueIn 8 (← takeSome isOctal 2))
    else if isDigit c then numberEscape c
    else return .char (← plainEscape c)

/-! ## Sets -/

def setItem (token : List Char) : Read SetItem :=
  match token with
  | ['\\', c] => setEscape c
  | [c] => return .char c.toNat
  | _ => return .char 0

/-- The items of a set up to its closing bracket; `start` is the place of the opening one. -/
def setItems (start : Nat) (found : List SetItem) : Nat → Read (List SetItem)
  | 0 => return found
  | k + 1 => do
    match ← take with
    | none => fault .unterminatedSet ((← get).position - start)
    | some token =>
      if token == [']'] && !found.isEmpty then return found
      else
        let low ← setItem token
        if ← accept '-' then
          match ← take with
          | none => fault .unterminatedSet ((← get).position - start)
          | some [']'] => return found ++ [low, .char '-'.toNat]
          | some last =>
            let high ← setItem last
            match low, high with
            | .char a, .char b =>
              if b < a then fault (.badRange token last) (token.length + 1 + last.length)
              else setItems start (found ++ [.range a b]) k
            | _, _ => fault (.badRange token last) (token.length + 1 + last.length)
        else setItems start (found ++ [low]) k

/-- A set from behind its opening bracket. -/
def charSet : Read Node := do
  let start := (← get).position - 1
  let negated ← accept '^'
  let items ← setItems start [] (← steps)
  match items.eraseDups with
  | [.char c] => return if negated then .notChar c else .char c
  | distinct => return .set negated distinct

/-! ## Repetition -/

/-- Repetition counts stay below this. -/
def maxRepeat : Nat := 4294967295

def digits : Read (List Char) := do takeSome isDigit (← steps)

/-- The number that digits write, if there are any. -/
def count? (digits : List Char) : Read (Option Nat) := do
  let n := valueIn 10 digits
  if digits.isEmpty then return none
  else if Text.maxDigits < digits.length then
    throw { cause := .repeatTooLong digits.length, position := none, pattern := (← get).text }
  else if maxRepeat ≤ n then
    throw { cause := .repeatTooLarge, position := none, pattern := (← get).text }
  else return some n

/-- The bounds of a repetition that begins with `token`, or none where a brace is just a brace. -/
def bounds? (token : Char) : Read (Option (Nat × Option Nat)) := do
  match token with
  | '?' => return some (0, some 1)
  | '*' => return some (0, none)
  | '+' => return some (1, none)
  | _ =>
    let here ← get
    if here.next == some ['}'] then return none
    else
      let low ← digits
      let high ← if ← accept ',' then digits else pure low
      if !(← accept '}') then
        set here
        return none
      else
        let least := (← count? low).getD 0
        let most ← count? high
        if most.any (· < least) then fault .repeatBounds ((← get).position - here.position)
        else return some (least, most)

/-- What stands behind a quantifier. -/
def greed : Read Greed := do
  if ← accept '?' then return .lazy
  if ← accept '+' then return .possessive
  return .greedy

/-- Repeats the last item; `here` is the place behind the quantifier's first character. -/
def repeatLast (here : Nat) (bounds : Nat × Option Nat) (items : List Node) :
    Read (List Node) := do
  let offset := (← get).position - here + 1
  match items with
  | [] => fault .nothingToRepeat offset
  | .anchor _ :: _ => fault .nothingToRepeat offset
  | .repeated .. :: _ => fault .multipleRepeat offset
  | item :: before =>
    return .repeated (← greed) bounds.1 bounds.2 item :: before

/-! ## Switches -/

def flagOf? : Char → Option Flags
  | 'i' => some { ignoreCase := true }
  | 'm' => some { multiline := true }
  | 's' => some { dotAll := true }
  | 'x' => some { verbose := true }
  | 'a' => some { ascii := true }
  | 't' => some { template := true }
  | 'u' => some { unicode := true }
  | _ => none

def isFlagLetter (c : Char) : Bool := (flagOf? c).isSome || c == 'L'

/-- Switches turned on, from the letter `c`; the character that ends them is given too. -/
def flagsOn (c : Char) (on : Flags) : Nat → Read (Flags × Char)
  | 0 => return (on, ')')
  | k + 1 => do
    match flagOf? c with
    | none => fault .localeFlag
    | some f =>
      let on := on.or f
      if on.ascii && on.unicode then fault .clashingFlags
      else match ← take with
        | none => fault .missingFlagEnd
        | some [d] =>
          if d == ')' || d == '-' || d == ':' then return (on, d)
          else if isFlagLetter d then flagsOn d on k
          else fault (if Text.isLetter d then .unknownFlag else .missingFlagEnd) 1
        | some token => fault .missingFlagEnd token.length

/-- Switches turned off, from the letter `c` up to the colon. -/
def flagsOff (c : Char) (off : Flags) : Nat → Read Flags
  | 0 => return off
  | k + 1 => do
    match flagOf? c with
    | none => fault .typeFlagOff
    | some f =>
      if f.ascii || f.unicode then fault .typeFlagOff
      else
        let off := off.or f
        match ← take with
        | none => fault .missingColon
        | some [':'] => return off
        | some [d] =>
          if isFlagLetter d then flagsOff d off k
          else fault (if Text.isLetter d then .unknownFlag else .missingColon) 1
        | some token => fault .missingColon token.length

/-- Reads switches from their first character.  Without a result they hold for the whole
pattern, and are turned on there. -/
def groupFlags (c : Char) : Read (Option (Flags × Flags)) := do
  let (on, last) ← if c == '-' then pure (({} : Flags), '-') else flagsOn c {} (← steps)
  if last == ')' then
    modify (fun r => { r with flags := r.flags.or on })
    return none
  else if on.template then fault .globalFlagOn 1
  else
    let off ←
      if last == '-' then
        match ← take with
        | none => fault .missingFlag
        | some [d] =>
          if isFlagLetter d then flagsOff d {} (← steps)
          else fault (if Text.isLetter d then .unknownFlag else .missingFlag) 1
        | some token => fault .missingFlag token.length
      else pure {}
    if off.template then fault .globalFlagOff 1
    else if on.meets off then fault .flagOnAndOff 1
    else return some (on, off)

/-! ## Groups in brackets -/

/-- What stands behind an opening bracket. -/
inductive Opening where
  /-- A group with a body. -/
  | group (capturing : Bool) (name : Option (List Char)) (on off : Flags)
  | atomic
  | look (behind negated : Bool)
  | conditional (number : Nat)
  /-- An item that is complete. -/
  | item (node : Node)
  /-- Nothing: a comment. -/
  | nothing
  /-- Switches for the whole pattern. -/
  | switches

/-- Passes over a comment up to its closing bracket; `start` is the place of the opening one. -/
def comment (start : Nat) : Nat → Read Unit
  | 0 => return
  | k + 1 => do
    if (← get).next.isNone then fault .unterminatedComment ((← get).position - start)
    else if (← take) == some [')'] then return
    else comment start k

def namedReference : Read Node := do
  let name ← takeUntil ')' "group name" [] (← steps)
  checkName name
  match (← get).names.lookup name with
  | none => fault (.unknownGroupName name) (name.length + 1)
  | some number =>
    if !(← groupClosed number) then fault .openGroup (name.length + 1)
    else
      checkBehind number
      return .backref number

/-- Group numbers stay below this. -/
def maxGroups : Nat := 1073741823

/-- The group that a condition asks for. -/
def conditionGroup : Read Nat := do
  let name ← takeUntil ')' "group name" [] (← steps)
  let number ←
    if Text.isName name then
      match (← get).names.lookup name with
      | none => fault (.unknownGroupName name) (name.length + 1)
      | some n => pure n
    else match Text.integer? name with
      | some (.ofNat 0) => fault .badGroupNumber (name.length + 1)
      | some (.ofNat n) =>
        let r ← get
        if maxGroups ≤ n then fault (.invalidGroup n) (name.length + 1)
        if (r.conditions.lookup n).isNone then
          set { r with conditions := r.conditions ++ [(n, r.position - name.length - 1)] }
        pure n
      | _ => fault (.badGroupName name) (name.length + 1)
  checkBehind number
  return number

/-- What stands behind `(?P`. -/
def namedOpening : Read Opening := do
  if ← accept '<' then
    let name ← takeUntil '>' "group name" [] (← steps)
    checkName name
    return .group true (some name) {} {}
  else if ← accept '=' then return .item (← namedReference)
  else match ← take with
    | none => fault .unexpectedEnd
    | some token => fault (.unknownExtension ('P' :: token)) (token.length + 2)

/-- What stands behind an opening bracket at `start`. -/
def opening (start : Nat) : Read Opening := do
  if !(← accept '?') then return .group true none {} {}
  else match ← take with
    | none => fault .unexpectedEnd
    | some ['P'] => namedOpening
    | some [':'] => return .group false none {} {}
    | some ['#'] =>
      comment start (← steps)
      return .nothing
    | some ['='] => return .look false false
    | some ['!'] => return .look false true
    | some ['<'] =>
      match ← take with
      | none => fault .unexpectedEnd
      | some ['='] => return .look true false
      | some ['!'] => return .look true true
      | some token => fault (.unknownExtension ('<' :: token)) (token.length + 2)
    | some ['('] => return .conditional (← conditionGroup)
    | some ['>'] => return .atomic
    | some [c] =>
      if isFlagLetter c || c == '-' then
        match ← groupFlags c with
        | none => return .switches
        | some (on, off) => return .group false none on off
      else fault (.unknownExtension [c]) 2
    | some token => fault (.unknownExtension token) (token.length + 1)

/-- Takes the bracket that closes the group opened at `start`. -/
def closing (start : Nat) : Read Unit := do
  if !(← accept ')') then fault .unterminatedGroup ((← get).position - start)

/-! ## Sequences and alternatives -/

/-- Items in order, from the last to the first. -/
def joined (items : List Node) : Node :=
  match items with
  | [] => .empty
  | last :: before => before.foldl (fun acc item => .seq item acc) last

/-- Passes over a comment of a spaced-out pattern. -/
def lineComment : Nat → Read Unit
  | 0 => return
  | k + 1 => do
    match ← take with
    | none => return
    | some ['\n'] => return
    | _ => lineComment k

def isSpace (c : Char) : Bool :=
  c == ' ' || c == '\t' || c == '\n' || c == '\r' || c == '\x0b' || c == '\x0c'

mutual

/-- Reads alternatives; `nested` inside a group. -/
def alternatives (nested verbose : Bool) : Nat → Read Node
  | 0 => return .empty
  | k + 1 => do
    let first ← sequence nested verbose (!nested) [] k
    moreAlternatives nested verbose first k

/-- Reads further alternatives behind bars. -/
def moreAlternatives (nested verbose : Bool) (first : Node) : Nat → Read Node
  | 0 => return first
  | k + 1 => do
    if ← accept '|' then
      let r ← get
      let verbose := if nested then verbose else r.flags.verbose
      let next ← sequence nested verbose false [] k
      return .alt first (← moreAlternatives nested verbose next k)
    else return first

/-- Reads items; `found` holds those read so far, the last one first, and `first` tells whether
switches for the whole pattern may still come. -/
def sequence (nested verbose first : Bool) (found : List Node) : Nat → Read Node
  | 0 => return joined found
  | k + 1 => do
    match (← get).next with
    | none => return joined found
    | some ['|'] => return joined found
    | some [')'] => return joined found
    | some token =>
      advance
      match token with
      | ['\\', c] => sequence nested verbose first ((← escape c) :: found) k
      | [c] =>
        if verbose && isSpace c then sequence nested verbose first found k
        else if verbose && c == '#' then
          lineComment (← steps)
          sequence nested verbose first found k
        else if c == '[' then sequence nested verbose first ((← charSet) :: found) k
        else if c == '.' then sequence nested verbose first (.any :: found) k
        else if c == '^' then sequence nested verbose first (.anchor .lineStart :: found) k
        else if c == '$' then sequence nested verbose first (.anchor .lineEnd :: found) k
        else if c == '*' || c == '+' || c == '?' || c == '{' then
          let here := (← get).position
          match ← bounds? c with
          | none => sequence nested verbose first (.char c.toNat :: found) k
          | some bounds => sequence nested verbose first (← repeatLast here bounds found) k
        else if c == '(' then
          let start := (← get).position - 1
          match ← opening start with
          | .nothing => sequence nested verbose first found k
          | .item node => sequence nested verbose first (node :: found) k
          | .switches =>
            let r ← get
            if !first || !found.isEmpty then fault .lateFlags (r.position - start)
            else sequence nested r.flags.verbose first found k
          | opened => sequence nested verbose first ((← body opened start verbose k) :: found) k
        else sequence nested verbose first (.char c.toNat :: found) k
      | _ => sequence nested verbose first found k

/-- Reads the body of a group opened at `start` and its closing bracket. -/
def body (opened : Opening) (start : Nat) (verbose : Bool) : Nat → Read Node
  | 0 => return .empty
  | k + 1 => do
    match opened with
    | .group capturing name on off => do
      let number ← if capturing then some <$> openGroup name else pure none
      let verbose := (verbose || on.verbose) && !off.verbose
      let inner ← alternatives true verbose k
      closing start
      match number with
      | some n => closeGroup n inner
      | none => pure ()
      return .group number on off inner
    | .atomic =>
      let inner ← alternatives true verbose k
      closing start
      return .atomic inner
    | .look false negated =>
      let inner ← alternatives true verbose k
      closing start
      return .ahead negated inner
    | .look true negated =>
      let before := (← get).behindGroups
      modify (fun r => { r with behindGroups := some (before.getD r.groups.length) })
      let inner ← alternatives true verbose k
      modify (fun r => { r with behindGroups := before })
      closing start
      let (low, high) ← widthOf inner
      return .behind negated low high inner
    | .conditional number =>
      let yes ← sequence true verbose false [] k
      let no ←
        if ← accept '|' then
          let no ← sequence true verbose false [] k
          let r ← get
          if r.next == some ['|'] then fault .thirdBranch else pure no
        else pure .empty
      closing start
      return .conditional number yes no
    | .item node => return node
    | .nothing | .switches => return .empty

end

end Reader

/-- The greatest length of a text that a look behind can go back over. -/
def maxBehind : Nat := 4294967295

/-- The first part of a pattern that there is no machine for. -/
def Node.refused? (template : Bool) : Node → Option Cause
  | .seq a b | .alt a b | .conditional _ a b => (a.refused? template).or (b.refused? template)
  | .group _ _ _ body | .atomic body | .ahead _ body => body.refused? template
  | .repeated greed _ _ body =>
    if template then some (.templateRepeat greed) else body.refused? template
  | .behind _ low high body =>
    if maxBehind < low then some .distantLookBehind
    else if low ≠ high then some .unboundedLookBehind
    else body.refused? template
  | _ => none

namespace Reader

def whole : Read Compiled := do
  advance
  let n ← steps
  let root ← alternatives false false (4 * n + 8)
  let r ← get
  if r.flags.ascii && r.flags.unicode then
    throw { cause := .clashingGlobalFlags, position := none, pattern := r.text }
  else if r.next.isSome then fault .unbalanced
  else match r.conditions.find? (fun c => r.groups.length ≤ c.1) with
    | some (n, p) => throw { cause := .invalidGroup n, position := some p, pattern := r.text }
    | none =>
      match root.refused? r.flags.template with
      | some cause => throw { cause, position := none, pattern := r.text }
      | none => return { root, flags := r.flags }

end Reader

/-- Reads the text of a pattern. -/
def compile (charNames : CharNames) (text : List Char) : Except Fault Compiled :=
  (Reader.whole.run { charNames, text, rest := text }).map (·.1)

end SiteAudit.Pattern
