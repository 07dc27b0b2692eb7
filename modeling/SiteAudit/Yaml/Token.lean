import SiteAudit.Text.Quoted
import SiteAudit.Text.Utf8
import SiteAudit.Yaml.Mark
/-!
# Tokens of a YAML text

A text is cut into tokens on demand.  Indentation opens and closes blocks; a token that may turn
out to be a key is remembered until a colon follows or can no longer follow, and tokens behind it
wait until that is known.

* `Scanner` is what cutting keeps.
* `Scanner.peekToken` and `Scanner.takeToken` give the next token, once it is certain.
-/
namespace SiteAudit.Yaml

/-- The value of a directive. -/
inductive Directive where
  | version (major minor : Nat)
  | tag (handle lead : String)
  | other
  deriving DecidableEq, Repr

inductive TokenKind where
  | streamStart
  | streamEnd
  | directive (d : Directive)
  | documentStart
  | documentEnd
  | blockSequenceStart
  | blockMappingStart
  | blockEnd
  | flowSequenceStart
  | flowMappingStart
  | flowSequenceEnd
  | flowMappingEnd
  | key
  | value
  | blockEntry
  | flowEntry
  | alias (name : String)
  | anchor (name : String)
  | tag (handle : Option String) (rest : String)
  | scalar (text : String) (plain : Bool)
  deriving DecidableEq, Repr, Inhabited

/-- How faults name a token. -/
def TokenKind.word : TokenKind → String
  | streamStart => "<stream start>"
  | streamEnd => "<stream end>"
  | directive _ => "<directive>"
  | documentStart => "<document start>"
  | documentEnd => "<document end>"
  | blockSequenceStart => "<block sequence start>"
  | blockMappingStart => "<block mapping start>"
  | blockEnd => "<block end>"
  | flowSequenceStart => "["
  | flowMappingStart => "\x7b"
  | flowSequenceEnd => "]"
  | flowMappingEnd => "\x7d"
  | key => "?"
  | value => ":"
  | blockEntry => "-"
  | flowEntry => ","
  | .alias _ => "<alias>"
  | anchor _ => "<anchor>"
  | tag .. => "<tag>"
  | scalar .. => "<scalar>"

structure Token where
  kind : TokenKind
  start : Mark
  stop : Mark
  deriving Repr, Inhabited

/-- A token that may be a key. -/
structure PossibleKey where
  /-- The number of the token, counted from the start of the text. -/
  number : Nat
  /-- Whether nothing else than a key can stand there. -/
  required : Bool
  mark : Mark
  deriving Repr

structure Scanner where
  text : Array Char
  place : Mark := ⟨0, 0, 0⟩
  done : Bool := false
  /-- How many brackets are open; closing one too many counts as being inside. -/
  flowLevel : Int := 0
  /-- Tokens that were cut and not taken yet. -/
  tokens : List Token := []
  taken : Nat := 0
  indent : Int := -1
  indents : List Int := []
  allowKey : Bool := true
  /-- The possible key of each flow level. -/
  keys : List (Int × PossibleKey) := []

namespace Scanner

abbrev Scan := StateT Scanner (Except Fault)

/-! ## Characters -/

def charAt (s : Scanner) (k : Nat) : Char := s.text.getD (s.place.index + k) endChar

/-- The character `k` places ahead. -/
def peek (k : Nat := 0) : Scan Char := do return (← get).charAt k

def mark : Scan Mark := do return (← get).place

/-- The place behind the next character. -/
def nextPlace (s : Scanner) : Mark :=
  let c := s.charAt 0
  let m := s.place
  if c == '\n' || c.toNat == 0x85 || c.toNat == 0x2028 || c.toNat == 0x2029 ||
      (c == '\r' && s.charAt 1 != '\n') then
    ⟨m.index + 1, m.line + 1, 0⟩
  else if c.toNat == 0xFEFF then ⟨m.index + 1, m.line, m.column⟩
  else ⟨m.index + 1, m.line, m.column + 1⟩

def step : Scan Unit := modify (fun s => { s with place := s.nextPlace })

def forward : Nat → Scan Unit
  | 0 => return
  | n + 1 => do
    step
    forward n

def ahead (s : Scanner) (n : Nat) : List Char :=
  (List.range n).map s.charAt

/-- How many of the characters from offset `i` on satisfy `p`. -/
def countFrom (text : Array Char) (p : Char → Bool) : Nat → Nat → Nat
  | 0, _ => 0
  | fuel + 1, i =>
    match text[i]? with
    | some c => if p c then countFrom text p fuel (i + 1) + 1 else 0
    | none => 0

/-- How many characters from `k` places ahead satisfy `p`. -/
def count (p : Char → Bool) (k : Nat := 0) : Scan Nat := do
  let s ← get
  return countFrom s.text p s.text.size (s.place.index + k)

def takeWhile (p : Char → Bool) : Scan (List Char) := do
  let n ← count p
  let s ← get
  forward n
  return s.ahead n

def skipWhile (p : Char → Bool) : Scan Unit := do forward (← count p)

/-- As many steps as any loop over the text can take. -/
def fuel : Scan Nat := do return 2 * (← get).text.size + 4

def isSpaceOrEnd (c : Char) : Bool := c == ' ' || isBreakOrEnd c

def isGapOrEnd (c : Char) : Bool := c == '\t' || isSpaceOrEnd c

def isWordChar (c : Char) : Bool :=
  ('0' ≤ c && c ≤ '9') || ('A' ≤ c && c ≤ 'Z') || ('a' ≤ c && c ≤ 'z') || c == '-' || c == '_'

def isHexDigit (c : Char) : Bool :=
  ('0' ≤ c && c ≤ '9') || ('A' ≤ c && c ≤ 'F') || ('a' ≤ c && c ≤ 'f')

def hexValue (s : List Char) : Nat :=
  s.foldl (fun n c => 16 * n + (if c ≤ '9' then c.toNat - 48
    else if 'a' ≤ c then c.toNat - 87 else c.toNat - 55)) 0

def quoted (c : Char) : String := String.ofList (Text.Quoted.quote [c])

/-- Ends with a fault here. -/
def fail {α : Type} (context : Option (String × Mark)) (problem : String) : Scan α := do
  throw (.trouble {
    context := context.map (·.1), contextMark := context.map (·.2), problem, mark := (← mark) })

/-- Takes a line end and gives its text; nothing where there is none. -/
def lineBreak : Scan (List Char) := do
  let c ← peek
  if c == '\r' || c == '\n' || c.toNat == 0x85 then
    if c == '\r' && (← peek 1) == '\n' then forward 2 else forward 1
    return ['\n']
  else if c.toNat == 0x2028 || c.toNat == 0x2029 then
    forward 1
    return [c]
  else return []

/-- Whether a line that separates documents begins here. -/
def atSeparator : Scan Bool := do
  let s ← get
  let lead := s.ahead 3
  return (lead == ['-', '-', '-'] || lead == ['.', '.', '.']) && isGapOrEnd (s.charAt 3)

/-! ## Keys and indentation -/

/-- The longest distance between a key and its colon. -/
def keyReach : Nat := 1024

/-- Forgets possible keys that can no longer be keys. -/
def dropStaleKeys : Scan Unit := do
  let s ← get
  let stale := fun (k : PossibleKey) =>
    k.mark.line != s.place.line || keyReach < s.place.index - k.mark.index
  match s.keys.find? (fun (_, k) => stale k && k.required) with
  | some (_, k) => fail (some ("while scanning a simple key", k.mark)) "could not find expected ':'"
  | none => set { s with keys := s.keys.filter (fun (_, k) => !stale k) }

def removeKey : Scan Unit := do
  let s ← get
  match s.keys.lookup s.flowLevel with
  | none => return
  | some k =>
    if k.required then
      fail (some ("while scanning a simple key", k.mark)) "could not find expected ':'"
    else set { s with keys := s.keys.filter (fun (level, _) => level != s.flowLevel) }

/-- Notes that the next token may be a key. -/
def saveKey : Scan Unit := do
  let s ← get
  if s.allowKey then
    let required := s.flowLevel == 0 && s.indent == s.place.column
    removeKey
    modify (fun s => { s with
      keys := s.keys ++ [(s.flowLevel, {
        number := s.taken + s.tokens.length, required, mark := s.place })] })

def pushToken (kind : TokenKind) (start stop : Mark) : Scan Unit :=
  modify (fun s => { s with tokens := s.tokens ++ [⟨kind, start, stop⟩] })

/-- Closes the blocks that are indented more than `column`. -/
def unwindSteps (column : Int) : Nat → Scan Unit
  | 0 => return
  | k + 1 => do
    let s ← get
    if s.indent > column then
      match s.indents with
      | [] => return
      | outer :: more =>
        set { s with indent := outer, indents := more }
        pushToken .blockEnd s.place s.place
        unwindSteps column k

def unwind (column : Int) : Scan Unit := do
  let s ← get
  if s.flowLevel == 0 then unwindSteps column (s.indents.length + 1)

/-- Opens a block at `column`, unless one is open there. -/
def addIndent (column : Int) : Scan Bool := do
  let s ← get
  if s.indent < column then
    set { s with indents := s.indent :: s.indents, indent := column }
    return true
  else return false

def setAllowKey (b : Bool) : Scan Unit := modify (fun s => { s with allowKey := b })

/-- Cuts a token of `n` characters. -/
def indicator (kind : TokenKind) (n : Nat := 1) : Scan Unit := do
  let start ← mark
  forward n
  pushToken kind start (← mark)

/-! ## Gaps -/

/-- Passes over spaces, comments and line ends. -/
def skipGapSteps : Nat → Scan Unit
  | 0 => return
  | k + 1 => do
    skipWhile (· == ' ')
    if (← peek) == '#' then skipWhile (fun c => !isBreakOrEnd c)
    let lineEnd ← lineBreak
    if !lineEnd.isEmpty then
      let s ← get
      if s.flowLevel == 0 then setAllowKey true
      skipGapSteps k

def skipGap : Scan Unit := do
  let s ← get
  if s.place.index == 0 && (s.charAt 0).toNat == 0xFEFF then step
  skipGapSteps (← fuel)

/-- Passes over the rest of a line, which may hold a comment only. -/
def ignoredLine (context : String × Mark) : Scan Unit := do
  skipWhile (· == ' ')
  if (← peek) == '#' then skipWhile (fun c => !isBreakOrEnd c)
  let c ← peek
  if !isBreakOrEnd c then
    fail (some context) ("expected a comment or a line break, but found " ++ quoted c)
  else discard lineBreak

/-! ## Tags -/

/-- Reads percent escapes, at most `n` of them. -/
def uriEscapes (context : String × Mark) : Nat → Scan (List UInt8)
  | 0 => return []
  | n + 1 => do
    if (← peek) != '%' then return []
    else
      forward 1
      let s ← get
      match (s.ahead 2).find? (fun c => !isHexDigit c) with
      | some c =>
        fail (some context)
          ("expected URI escape sequence of 2 hexadecimal numbers, but found " ++ quoted c)
      | none =>
        forward 2
        return UInt8.ofNat (hexValue (s.ahead 2)) :: (← uriEscapes context n)

def isUriChar (c : Char) : Bool := isWordChar c || ";/?:@&=+$,.!~*'()[]".toList.contains c

/-- Reads the pieces of an address. -/
def uriPieces (name : String) (start : Mark) : Nat → Scan (List Char)
  | 0 => return []
  | k + 1 => do
    let piece ← takeWhile isUriChar
    if (← peek) == '%' then
      let here ← mark
      let context := ("while scanning a " ++ name, start)
      let bytes ← uriEscapes context (← fuel)
      match Text.Utf8.decode bytes with
      | .ok chars => return piece ++ chars ++ (← uriPieces name start k)
      | .error fault =>
        throw (.trouble {
          context := some context.1, contextMark := some start
          problem := fault.message, mark := here })
    else return piece

/-- Reads an address in a tag or a directive. -/
def uri (name : String) (start : Mark) : Scan String := do
  let escaped := (← peek) == '%'
  let text ← uriPieces name start (← fuel)
  if text.isEmpty && !escaped then
    fail (some ("while parsing a " ++ name, start)) ("expected URI, but found " ++ quoted (← peek))
  else return String.ofList text

/-- Reads the handle of a tag: two exclamation marks with a word between them, or one. -/
def tagHandle (name : String) (start : Mark) : Scan String := do
  let c ← peek
  if c != '!' then
    fail (some ("while scanning a " ++ name, start)) ("expected '!', but found " ++ quoted c)
  else if (← peek 1) == ' ' then
    forward 1
    return "!"
  else
    let n ← count isWordChar 1
    let last ← peek (n + 1)
    if last != '!' then
      forward (n + 1)
      fail (some ("while scanning a " ++ name, start)) ("expected '!', but found " ++ quoted last)
    else
      let s ← get
      forward (n + 2)
      return String.ofList (s.ahead (n + 2))

/-- Whether an exclamation mark stands in the word that begins `k` places ahead. -/
def hasSecondMark (k : Nat) : Scan Bool := do
  let n ← count (fun c => !isSpaceOrEnd c && c != '!') k
  return (← peek (k + n)) == '!'

def tag : Scan Unit := do
  let start ← mark
  let c ← peek 1
  let (handle, rest) ←
    if c == '<' then
      forward 2
      let rest ← uri "tag" start
      let d ← peek
      if d != '>' then
        fail (some ("while parsing a tag", start)) ("expected '>', but found " ++ quoted d)
      else
        forward 1
        pure (none, rest)
    else if isGapOrEnd c then
      forward 1
      pure (none, "!")
    else
      let handle ← if ← hasSecondMark 1 then tagHandle "tag" start
        else do
          forward 1
          pure "!"
      let rest ← uri "tag" start
      pure (some handle, rest)
  let c ← peek
  if !isSpaceOrEnd c then
    fail (some ("while scanning a tag", start)) ("expected ' ', but found " ++ quoted c)
  else pushToken (.tag handle rest) start (← mark)

/-! ## Directives, anchors and aliases -/

def directiveNumber (context : String × Mark) : Scan Nat := do
  let c ← peek
  if !('0' ≤ c && c ≤ '9') then
    fail (some context) ("expected a digit, but found " ++ quoted c)
  else
    let digits ← takeWhile (fun c => '0' ≤ c && c ≤ '9')
    return digits.foldl (fun n c => 10 * n + (c.toNat - 48)) 0

def directiveName (context : String × Mark) : Scan String := do
  let name ← takeWhile isWordChar
  let c ← peek
  if name.isEmpty || !isSpaceOrEnd c then
    fail (some context) ("expected alphabetic or numeric character, but found " ++ quoted c)
  else return String.ofList name

def directive : Scan Unit := do
  let start ← mark
  let context := ("while scanning a directive", start)
  forward 1
  let name ← directiveName context
  let (value, stop) ←
    if name == "YAML" then
      skipWhile (· == ' ')
      let major ← directiveNumber context
      if (← peek) != '.' then
        fail (some context) ("expected a digit or '.', but found " ++ quoted (← peek))
      else
        forward 1
        let minor ← directiveNumber context
        let c ← peek
        if !isSpaceOrEnd c then
          fail (some context) ("expected a digit or ' ', but found " ++ quoted c)
        else pure (Directive.version major minor, ← mark)
    else if name == "TAG" then
      skipWhile (· == ' ')
      let handle ← tagHandle "directive" start
      let c ← peek
      if c != ' ' then fail (some context) ("expected ' ', but found " ++ quoted c)
      else
        skipWhile (· == ' ')
        let lead ← uri "directive" start
        let c ← peek
        if !isSpaceOrEnd c then fail (some context) ("expected ' ', but found " ++ quoted c)
        else pure (Directive.tag handle lead, ← mark)
    else
      let stop ← mark
      skipWhile (fun c => !isBreakOrEnd c)
      pure (Directive.other, stop)
  ignoredLine context
  pushToken (.directive value) start stop

def anchorOrAlias (make : String → TokenKind) (word : String) : Scan Unit := do
  let start ← mark
  let context := ("while scanning an " ++ word, start)
  forward 1
  let name ← takeWhile isWordChar
  let c ← peek
  if name.isEmpty || !(isGapOrEnd c || "?:,]\x7d%@`".toList.contains c) then
    fail (some context) ("expected alphabetic or numeric character, but found " ++ quoted c)
  else pushToken (make (String.ofList name)) start (← mark)

/-! ## Block scalars -/

/-- What a block scalar does with the line ends behind its text. -/
inductive Chomping where
  | clip
  | strip
  | keep
  deriving DecidableEq, Repr

def chompingOf? : Char → Option Chomping
  | '+' => some .keep
  | '-' => some .strip
  | _ => none

/-- The indentation that a digit asks for. -/
def increment? (context : String × Mark) : Scan (Option Nat) := do
  let c ← peek
  if c == '0' then
    fail (some context) "expected indentation indicator in the range 1-9, but found 0"
  else if '1' ≤ c && c ≤ '9' then
    forward 1
    return some (c.toNat - 48)
  else return none

/-- Reads the indicators behind the sign of a block scalar. -/
def blockIndicators (context : String × Mark) : Scan (Chomping × Option Nat) := do
  let found ← match chompingOf? (← peek) with
    | some chomping => do
      forward 1
      pure (chomping, ← increment? context)
    | none => do
      match ← increment? context with
      | none => pure (Chomping.clip, none)
      | some n =>
        match chompingOf? (← peek) with
        | some chomping => do
          forward 1
          pure (chomping, some n)
        | none => pure (Chomping.clip, some n)
  let c ← peek
  if !isSpaceOrEnd c then
    fail (some context) ("expected chomping or indentation indicators, but found " ++ quoted c)
  else return found

/-- Passes over the empty lines at the start and finds the greatest indentation there. -/
def blockIndentation (breaks : List Char) (greatest : Nat) (stop : Mark) :
    Nat → Scan (List Char × Nat × Mark)
  | 0 => return (breaks, greatest, stop)
  | k + 1 => do
    let c ← peek
    if c == ' ' then
      step
      blockIndentation breaks (max greatest (← mark).column) stop k
    else if isBreak c then
      let lineEnd ← lineBreak
      blockIndentation (breaks ++ lineEnd) greatest (← mark) k
    else return (breaks, greatest, stop)

/-- Passes over spaces up to the indentation. -/
def skipIndent (indent : Nat) : Nat → Scan Unit
  | 0 => return
  | k + 1 => do
    if (← mark).column < indent && (← peek) == ' ' then
      step
      skipIndent indent k

def blockBreaks (indent : Nat) (breaks : List Char) (stop : Mark) :
    Nat → Scan (List Char × Mark)
  | 0 => return (breaks, stop)
  | k + 1 => do
    skipIndent indent indent
    if isBreak (← peek) then
      let lineEnd ← lineBreak
      blockBreaks indent (breaks ++ lineEnd) (← mark) k
    else return (breaks, stop)

/-- What the lines of a block scalar come to. -/
structure BlockText where
  text : List Char
  lineEnd : List Char
  breaks : List Char
  stop : Mark

def blockLines (folded : Bool) (indent : Nat) (b : BlockText) : Nat → Scan BlockText
  | 0 => return b
  | k + 1 => do
    if (← mark).column != indent || (← peek) == endChar then return b
    else
      let first ← peek
      let line ← takeWhile (fun c => !isBreakOrEnd c)
      let text := b.text ++ b.breaks ++ line
      let lineEnd ← lineBreak
      let (breaks, stop) ← blockBreaks indent [] (← mark) (← fuel)
      let next ← peek
      if (← mark).column == indent && next != endChar then
        let plainFold := folded && lineEnd == ['\n'] && first != ' ' && first != '\t' &&
          next != ' ' && next != '\t'
        let join := if plainFold then (if breaks.isEmpty then [' '] else []) else lineEnd
        blockLines folded indent { text := text ++ join, lineEnd, breaks, stop } k
      else return { text, lineEnd, breaks, stop }

def blockScalar (folded : Bool) : Scan Unit := do
  let start ← mark
  let context := ("while scanning a block scalar", start)
  forward 1
  let (chomping, increment) ← blockIndicators context
  ignoredLine context
  let s ← get
  let least := (max (s.indent + 1) 1).toNat
  let (indent, breaks, stop) ← match increment with
    | none => do
      let (breaks, greatest, stop) ← blockIndentation [] 0 (← mark) (← fuel)
      pure (max least greatest, breaks, stop)
    | some n => do
      let indent := least + n - 1
      let (breaks, stop) ← blockBreaks indent [] (← mark) (← fuel)
      pure (indent, breaks, stop)
  let b ← blockLines folded indent { text := [], lineEnd := [], breaks, stop } (← fuel)
  let text := b.text ++ (if chomping == .strip then [] else b.lineEnd) ++
    (if chomping == .keep then b.breaks else [])
  pushToken (.scalar (String.ofList text) false) start b.stop

/-! ## Quoted scalars -/

/-- The characters with an escape of their own. -/
def escapeOf? (c : Char) : Option Nat :=
  match c with
  | '0' => some 0
  | 'a' => some 7
  | 'b' => some 8
  | 't' | '\t' => some 9
  | 'n' => some 10
  | 'v' => some 11
  | 'f' => some 12
  | 'r' => some 13
  | 'e' => some 27
  | ' ' => some 32
  | '"' => some 34
  | '\\' => some 92
  | '/' => some 47
  | 'N' => some 0x85
  | '_' => some 0xA0
  | 'L' => some 0x2028
  | 'P' => some 0x2029
  | _ => none

/-- How many digits an escape by number has. -/
def escapeSize? : Char → Option Nat
  | 'x' => some 2
  | 'u' => some 4
  | 'U' => some 8
  | _ => none

/-- Passes over empty lines inside a quoted scalar. -/
def quotedBreaks (start : Mark) (breaks : List Char) : Nat → Scan (List Char)
  | 0 => return breaks
  | k + 1 => do
    if ← atSeparator then
      fail (some ("while scanning a quoted scalar", start)) "found unexpected document separator"
    else
      skipWhile (fun c => c == ' ' || c == '\t')
      if isBreak (← peek) then
        let lineEnd ← lineBreak
        quotedBreaks start (breaks ++ lineEnd) k
      else return breaks

def quotedEscape (start : Mark) : Scan (List Char) := do
  let context := ("while scanning a double-quoted scalar", start)
  let c ← peek
  match escapeOf? c, escapeSize? c with
  | some n, _ =>
    forward 1
    return [Char.ofNat n]
  | none, some size =>
    forward 1
    let s ← get
    match (s.ahead size).find? (fun c => !isHexDigit c) with
    | some bad =>
      fail (some context) ("expected escape sequence of " ++ toString size ++
        " hexadecimal numbers, but found " ++ quoted bad)
    | none =>
      let n := hexValue (s.ahead size)
      if Nat.pow 2 31 ≤ n then
        throw (.value (.tooLarge "signed integer is greater than maximum"))
      else if 0x110000 ≤ n then throw (.value (.bad "chr() arg not in range(0x110000)"))
      else
        forward size
        return [Char.ofNat n]
  | none, none =>
    if isBreak c then
      discard lineBreak
      quotedBreaks start [] (← fuel)
    else fail (some context) ("found unknown escape character " ++ quoted c)

/-- Reads what is no gap in a quoted scalar. -/
def quotedRun (double : Bool) (start : Mark) : Nat → Scan (List Char)
  | 0 => return []
  | k + 1 => do
    let run ← takeWhile (fun c => !(isGapOrEnd c || c == '\'' || c == '"' || c == '\\'))
    let c ← peek
    if !double && c == '\'' && (← peek 1) == '\'' then
      forward 2
      return run ++ '\'' :: (← quotedRun double start k)
    else if (double && c == '\'') || (!double && (c == '"' || c == '\\')) then
      forward 1
      return run ++ c :: (← quotedRun double start k)
    else if double && c == '\\' then
      forward 1
      let chars ← quotedEscape start
      return run ++ chars ++ (← quotedRun double start k)
    else return run

def quotedGap (start : Mark) : Scan (List Char) := do
  let blanks ← takeWhile (fun c => c == ' ' || c == '\t')
  let c ← peek
  if c == endChar then
    fail (some ("while scanning a quoted scalar", start)) "found unexpected end of stream"
  else if isBreak c then
    let lineEnd ← lineBreak
    let breaks ← quotedBreaks start [] (← fuel)
    let join := if lineEnd != ['\n'] then lineEnd else if breaks.isEmpty then [' '] else []
    return join ++ breaks
  else return blanks

/-- Reads the pieces of a quoted scalar up to its closing quote. -/
def quotedPieces (double : Bool) (quote : Char) (start : Mark) : Nat → Scan (List Char)
  | 0 => return []
  | k + 1 => do
    if (← peek) == quote then return []
    else
      let gap ← quotedGap start
      let run ← quotedRun double start (← fuel)
      return gap ++ run ++ (← quotedPieces double quote start k)

def quotedScalar (double : Bool) : Scan Unit := do
  let start ← mark
  let quote ← peek
  forward 1
  let first ← quotedRun double start (← fuel)
  let more ← quotedPieces double quote start (← fuel)
  forward 1
  pushToken (.scalar (String.ofList (first ++ more)) false) start (← mark)

/-! ## Plain scalars -/

/-- How many characters of a plain scalar come next. -/
def plainCount (s : Scanner) : Nat → Nat → Nat
  | 0, n => n
  | k + 1, n =>
    let c := s.charAt n
    let next := s.charAt (n + 1)
    let inFlow := s.flowLevel != 0
    let endsAtColon := c == ':' &&
      (isGapOrEnd next || (inFlow && ",[]\x7b\x7d".toList.contains next))
    if isGapOrEnd c || endsAtColon || (inFlow && ",?[]\x7b\x7d".toList.contains c) then n
    else plainCount s k (n + 1)

/-- Passes over empty lines inside a plain scalar; nothing at the end of a document. -/
def plainBreaks (breaks : List Char) : Nat → Scan (Option (List Char))
  | 0 => return some breaks
  | k + 1 => do
    let c ← peek
    if c == ' ' then
      step
      plainBreaks breaks k
    else if isBreak c then
      let lineEnd ← lineBreak
      if ← atSeparator then return none else plainBreaks (breaks ++ lineEnd) k
    else return some breaks

/-- Reads a gap inside a plain scalar; nothing when the scalar ends here. -/
def plainGap : Scan (List Char) := do
  let blanks ← takeWhile (· == ' ')
  if isBreak (← peek) then
    let lineEnd ← lineBreak
    setAllowKey true
    if ← atSeparator then return []
    else match ← plainBreaks [] (← fuel) with
      | none => return []
      | some breaks =>
        let join := if lineEnd != ['\n'] then lineEnd else if breaks.isEmpty then [' '] else []
        return join ++ breaks
  else return blanks

/-- Reads the pieces of a plain scalar; `gap` stands before the next piece. -/
def plainPieces (indent : Int) (text gap : List Char) (stop : Mark) :
    Nat → Scan (List Char × Mark)
  | 0 => return (text, stop)
  | k + 1 => do
    let s ← get
    let n := if s.charAt 0 == '#' then 0 else plainCount s (s.text.size + 1) 0
    if n == 0 then return (text, stop)
    else
      setAllowKey false
      forward n
      let text := text ++ gap ++ s.ahead n
      let stop ← mark
      let gap ← plainGap
      let here ← get
      if gap.isEmpty || here.charAt 0 == '#' ||
          (here.flowLevel == 0 && (here.place.column : Int) < indent) then
        return (text, stop)
      else plainPieces indent text gap stop k

def plainScalar : Scan Unit := do
  let start ← mark
  let s ← get
  let (text, stop) ← plainPieces (s.indent + 1) [] [] start (← fuel)
  pushToken (.scalar (String.ofList text) true) start stop

/-- Whether a plain scalar may begin here. -/
def startsPlain (s : Scanner) : Bool :=
  let c := s.charAt 0
  !(isGapOrEnd c || "-?:,[]\x7b\x7d#&*!|>'\"%@`".toList.contains c) ||
    (!isGapOrEnd (s.charAt 1) && (c == '-' || (s.flowLevel == 0 && (c == '?' || c == ':'))))

/-! ## Cutting -/

/-- Puts tokens before the token with the given number. -/
def insertTokens (number : Nat) (new : List Token) : Scan Unit :=
  modify (fun s =>
    let n := number - s.taken
    { s with tokens := s.tokens.take n ++ new ++ s.tokens.drop n })

/-- Ends the blocks and possible keys before a document marker or a directive. -/
def closeAll : Scan Unit := do
  unwind (-1)
  removeKey
  setAllowKey false

/-- Opens a block of the given kind here, or faults where none may begin. -/
def openBlock (kind : TokenKind) (problem : String) : Scan Unit := do
  let s ← get
  if s.flowLevel == 0 then
    if !s.allowKey then fail none problem
    else if ← addIndent s.place.column then pushToken kind s.place s.place

/-- Cuts the colon behind a key. -/
def valueToken : Scan Unit := do
  let s ← get
  match s.keys.lookup s.flowLevel with
  | some k =>
    set { s with keys := s.keys.filter (fun (level, _) => level != s.flowLevel) }
    let opens ← if s.flowLevel == 0 then addIndent k.mark.column else pure false
    insertTokens k.number
      ((if opens then [⟨.blockMappingStart, k.mark, k.mark⟩] else []) ++ [⟨.key, k.mark, k.mark⟩])
    setAllowKey false
  | none =>
    openBlock .blockMappingStart "mapping values are not allowed here"
    setAllowKey (s.flowLevel == 0)
    removeKey
  indicator .value

def fetch : Scan Unit := do
  skipGap
  dropStaleKeys
  unwind (← mark).column
  let s ← get
  let c := s.charAt 0
  let gapNext := isGapOrEnd (s.charAt 1)
  let inFlow := s.flowLevel != 0
  let separator ← atSeparator
  if c == endChar then
    unwind (-1)
    removeKey
    modify (fun s => { s with allowKey := false, keys := [], done := true })
    let m ← mark
    pushToken .streamEnd m m
  else if c == '%' && s.place.column == 0 then
    closeAll
    directive
  else if c == '-' && s.place.column == 0 && separator then
    closeAll
    indicator .documentStart 3
  else if c == '.' && s.place.column == 0 && separator then
    closeAll
    indicator .documentEnd 3
  else if c == '[' || c == '{' then
    saveKey
    modify (fun s => { s with flowLevel := s.flowLevel + 1, allowKey := true })
    indicator (if c == '[' then .flowSequenceStart else .flowMappingStart)
  else if c == ']' || c == '}' then
    removeKey
    modify (fun s => { s with flowLevel := s.flowLevel - 1, allowKey := false })
    indicator (if c == ']' then .flowSequenceEnd else .flowMappingEnd)
  else if c == ',' then
    setAllowKey true
    removeKey
    indicator .flowEntry
  else if c == '-' && gapNext then
    openBlock .blockSequenceStart "sequence entries are not allowed here"
    setAllowKey true
    removeKey
    indicator .blockEntry
  else if c == '?' && (inFlow || gapNext) then
    openBlock .blockMappingStart "mapping keys are not allowed here"
    setAllowKey (!inFlow)
    removeKey
    indicator .key
  else if c == ':' && (inFlow || gapNext) then valueToken
  else if c == '*' then
    saveKey
    setAllowKey false
    anchorOrAlias .alias "alias"
  else if c == '&' then
    saveKey
    setAllowKey false
    anchorOrAlias .anchor "anchor"
  else if c == '!' then
    saveKey
    setAllowKey false
    tag
  else if (c == '|' || c == '>') && !inFlow then
    setAllowKey true
    removeKey
    blockScalar (c == '>')
  else if c == '\'' || c == '"' then
    saveKey
    setAllowKey false
    quotedScalar (c == '"')
  else if s.startsPlain then
    saveKey
    setAllowKey false
    plainScalar
  else
    throw (.trouble {
      context := some "while scanning for the next token"
      problem := "found character " ++ quoted c ++ " that cannot start any token"
      mark := s.place })

/-- Whether the next token is not certain yet. -/
def needsMore : Scan Bool := do
  let s ← get
  if s.done then return false
  else if s.tokens.isEmpty then return true
  else
    dropStaleKeys
    let s ← get
    return s.keys.any (fun (_, k) => k.number == s.taken) &&
      s.keys.all (fun (_, k) => s.taken ≤ k.number)

/-- Cuts tokens until the next one is certain. -/
def ensure : Nat → Scan Unit
  | 0 => return
  | k + 1 => do
    if ← needsMore then
      fetch
      ensure k

def peekToken : Scan Token := do
  ensure (← fuel)
  let s ← get
  return s.tokens.headD ⟨.streamEnd, s.place, s.place⟩

def takeToken : Scan Token := do
  let t ← peekToken
  modify (fun s => { s with tokens := s.tokens.drop 1, taken := s.taken + 1 })
  return t

/-- A scanner at the start of a text. -/
def ofText (text : List Char) : Scanner :=
  let m : Mark := ⟨0, 0, 0⟩
  { text := text.toArray, tokens := [⟨.streamStart, m, m⟩] }

end Scanner

end SiteAudit.Yaml
