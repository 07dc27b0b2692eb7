import SiteAudit.Yaml.Token
/-!
# Events of a YAML text

The tokens of a text are read as events: nodes begin and end, and scalars and aliases stand
between.  Reading goes from one expectation to the next; what is to be expected after a node is
kept on a stack.

* `Expect` says what may come next.
* `Reader.next` reads the next event.
-/
namespace SiteAudit.Yaml

inductive EventKind where
  | streamStart
  | streamEnd
  | documentStart
  | documentEnd
  | alias (name : String)
  /-- A scalar; `resolve` when its text decides on its tag. -/
  | scalar (anchor tag : Option String) (resolve : Bool) (text : String)
  | sequenceStart (anchor tag : Option String)
  | sequenceEnd
  | mappingStart (anchor tag : Option String)
  | mappingEnd
  deriving DecidableEq, Repr, Inhabited

structure Event where
  kind : EventKind
  start : Mark
  deriving Repr, Inhabited

/-- What may come next. -/
inductive Expect where
  | streamStart
  | implicitDocument
  | document
  | documentEnd
  | documentContent
  | blockNode
  | blockSequence
  | blockSequenceEntry
  | indentlessEntry
  | blockMapping
  | blockMappingKey
  | blockMappingValue
  | flowSequence
  | flowSequenceEntry
  | flowPairKey
  | flowPairValue
  | flowPairEnd
  | flowMapping
  | flowMappingKey
  | flowMappingValue
  | flowMappingEmptyValue
  | nothing
  deriving DecidableEq, Repr

structure Reader where
  scanner : Scanner
  state : Expect := .streamStart
  /-- What to expect after the nodes that are open. -/
  stack : List Expect := []
  /-- Where the collections that are open began. -/
  marks : List Mark := []
  /-- The handles of tags. -/
  handles : List (String × String) := []
  /-- An event that was read and not taken yet. -/
  pending : Option Event := none

namespace Reader

abbrev Read := StateT Reader (Except Fault)

def scan {α : Type} (x : Scanner.Scan α) : Read α := do
  let r ← get
  let (a, scanner) ← (x.run r.scanner : Except Fault _)
  set { r with scanner }
  return a

def peekToken : Read Token := scan Scanner.peekToken

def takeToken : Read Token := scan Scanner.takeToken

def nextKind : Read TokenKind := do return (← peekToken).kind

def expect (e : Expect) : Read Unit := modify (fun r => { r with state := e })

def push (e : Expect) : Read Unit := modify (fun r => { r with stack := e :: r.stack })

/-- Goes on with what is to be expected after the current node. -/
def pop : Read Unit :=
  modify (fun r => { r with state := r.stack.headD .nothing, stack := r.stack.drop 1 })

def pushMark (m : Mark) : Read Unit := modify (fun r => { r with marks := m :: r.marks })

def popMark : Read Unit := modify (fun r => { r with marks := r.marks.drop 1 })

def lastMark : Read Mark := do return (← get).marks.headD ⟨0, 0, 0⟩

def fail {α : Type} (context : Option (String × Mark)) (problem : String) (mark : Mark) : Read α :=
  throw (.trouble {
    context := context.map (·.1), contextMark := context.map (·.2), problem, mark })

def quoted (s : String) : String := Text.Quoted.quoteString s

/-- A scalar that is not written. -/
def emptyScalar (m : Mark) : Event := ⟨.scalar none none true "", m⟩

/-- The handles that every document has. -/
def defaultHandles : List (String × String) := [("!", "!"), ("!!", "tag:yaml.org,2002:")]

/-! ## Directives -/

def directives (version : Bool) (handles : List (String × String)) :
    Nat → Read (List (String × String))
  | 0 => return handles
  | k + 1 => do
    match ← nextKind with
    | .directive d =>
      let t ← takeToken
      match d with
      | .version major _ =>
        if version then fail none "found duplicate YAML directive" t.start
        else if major != 1 then
          fail none "found incompatible YAML document (version 1.* is required)" t.start
        else directives true handles k
      | .tag handle lead =>
        if (handles.lookup handle).isSome then
          fail none ("duplicate tag handle " ++ quoted handle) t.start
        else directives version (handles ++ [(handle, lead)]) k
      | .other => directives version handles k
    | _ => return handles

/-! ## Nodes -/

/-- The anchor and tag before a node. -/
structure Properties where
  anchor : Option String := none
  tag : Option (Option String × String) := none
  start : Option Mark := none
  tagMark : Option Mark := none

def properties : Read Properties := do
  match ← nextKind with
  | .anchor name =>
    let a ← takeToken
    match ← nextKind with
    | .tag handle rest =>
      let t ← takeToken
      return { anchor := some name, tag := some (handle, rest), start := some a.start
               tagMark := some t.start }
    | _ => return { anchor := some name, start := some a.start }
  | .tag handle rest =>
    let t ← takeToken
    match ← nextKind with
    | .anchor name =>
      discard takeToken
      return { anchor := some name, tag := some (handle, rest), start := some t.start
               tagMark := some t.start }
    | _ => return { tag := some (handle, rest), start := some t.start, tagMark := some t.start }
  | _ => return {}

def fullTag (p : Properties) : Read (Option String) := do
  match p.tag with
  | none => return none
  | some (none, rest) => return some rest
  | some (some handle, rest) =>
    match (← get).handles.lookup handle with
    | some lead => return some (lead ++ rest)
    | none =>
      let m ← lastMark
      fail (some ("while parsing a node", p.start.getD m))
        ("found undefined tag handle " ++ quoted handle) (p.tagMark.getD m)

/-- Reads the event that begins a node.  In blocks more collections may begin. -/
def node (block indentless : Bool) : Read Event := do
  match ← nextKind with
  | .alias name =>
    let t ← takeToken
    pop
    return ⟨.alias name, t.start⟩
  | _ =>
    let p ← properties
    let tag ← fullTag p
    let next ← peekToken
    let start := p.start.getD next.start
    match next.kind with
    | .blockEntry =>
      if indentless then
        expect .indentlessEntry
        return ⟨.sequenceStart p.anchor tag, start⟩
      else other p tag start next
    | .scalar text plain =>
      discard takeToken
      pop
      let resolve := (plain && tag.isNone) || tag == some "!"
      return ⟨.scalar p.anchor tag resolve text, start⟩
    | .flowSequenceStart =>
      expect .flowSequence
      return ⟨.sequenceStart p.anchor tag, start⟩
    | .flowMappingStart =>
      expect .flowMapping
      return ⟨.mappingStart p.anchor tag, start⟩
    | .blockSequenceStart =>
      if block then
        expect .blockSequence
        return ⟨.sequenceStart p.anchor tag, start⟩
      else other p tag start next
    | .blockMappingStart =>
      if block then
        expect .blockMapping
        return ⟨.mappingStart p.anchor tag, start⟩
      else other p tag start next
    | _ => other p tag start next
where
  /-- A node without content: empty behind an anchor or a tag, and else a fault. -/
  other (p : Properties) (tag : Option String) (start : Mark) (next : Token) : Read Event := do
    if p.anchor.isSome || tag.isSome then
      pop
      return ⟨.scalar p.anchor tag (tag.isNone || tag == some "!") "", start⟩
    else
      fail (some ("while parsing a " ++ (if block then "block" else "flow") ++ " node", start))
        ("expected the node content, but found " ++ quoted next.kind.word) next.start

def closeCollection (kind : EventKind) : Read Event := do
  let t ← takeToken
  pop
  popMark
  return ⟨kind, t.start⟩

/-- Reads a node unless one of the given tokens comes next, where the node is empty; `after` is
what to expect behind it. -/
def nodeUnless (stops : TokenKind → Bool) (after : Expect) (block indentless : Bool) (m : Mark) :
    Read Event := do
  if stops (← nextKind) then
    expect after
    return emptyScalar m
  else
    push after
    node block indentless

def isKeyOrEnd : TokenKind → Bool
  | .key | .value | .blockEnd => true
  | _ => false

/-! ## Collections -/

def blockSequenceEntry : Read Event := do
  match ← nextKind with
  | .blockEntry =>
    let t ← takeToken
    nodeUnless (fun k => k == .blockEntry || k == .blockEnd) .blockSequenceEntry true false t.stop
  | .blockEnd => closeCollection .sequenceEnd
  | other =>
    fail (some ("while parsing a block collection", ← lastMark))
      ("expected <block end>, but found " ++ quoted other.word) (← peekToken).start

def indentlessEntry : Read Event := do
  match ← nextKind with
  | .blockEntry =>
    let t ← takeToken
    nodeUnless (fun k => k == .blockEntry || isKeyOrEnd k) .indentlessEntry true false t.stop
  | _ =>
    let t ← peekToken
    pop
    return ⟨.sequenceEnd, t.start⟩

def blockMappingKey : Read Event := do
  match ← nextKind with
  | .key =>
    let t ← takeToken
    nodeUnless isKeyOrEnd .blockMappingValue true true t.stop
  | .blockEnd => closeCollection .mappingEnd
  | other =>
    fail (some ("while parsing a block mapping", ← lastMark))
      ("expected <block end>, but found " ++ quoted other.word) (← peekToken).start

def blockMappingValue : Read Event := do
  match ← nextKind with
  | .value =>
    let t ← takeToken
    nodeUnless isKeyOrEnd .blockMappingKey true true t.stop
  | _ =>
    expect .blockMappingKey
    return emptyScalar (← peekToken).start

/-- Takes the comma before an entry that is not the first. -/
def flowComma (first : Bool) (what close : String) : Read Unit := do
  if !first then
    match ← nextKind with
    | .flowEntry => discard takeToken
    | other =>
      fail (some ("while parsing a flow " ++ what, ← lastMark))
        ("expected ',' or '" ++ close ++ "', but got " ++ quoted other.word) (← peekToken).start

def flowSequenceEntry (first : Bool) : Read Event := do
  if (← nextKind) == .flowSequenceEnd then closeCollection .sequenceEnd
  else
    flowComma first "sequence" "]"
    match ← nextKind with
    | .key =>
      let t ← peekToken
      expect .flowPairKey
      return ⟨.mappingStart none none, t.start⟩
    | .flowSequenceEnd => closeCollection .sequenceEnd
    | _ =>
      push .flowSequenceEntry
      node false false

def flowPairKey : Read Event := do
  let t ← takeToken
  nodeUnless (fun k => k == .value || k == .flowEntry || k == .flowSequenceEnd) .flowPairValue
    false false t.stop

def flowPairValue : Read Event := do
  match ← nextKind with
  | .value =>
    let t ← takeToken
    nodeUnless (fun k => k == .flowEntry || k == .flowSequenceEnd) .flowPairEnd false false t.stop
  | _ =>
    expect .flowPairEnd
    return emptyScalar (← peekToken).start

def flowMappingKey (first : Bool) : Read Event := do
  if (← nextKind) == .flowMappingEnd then closeCollection .mappingEnd
  else
    flowComma first "mapping" "\x7d"
    match ← nextKind with
    | .key =>
      let t ← takeToken
      nodeUnless (fun k => k == .value || k == .flowEntry || k == .flowMappingEnd)
        .flowMappingValue false false t.stop
    | .flowMappingEnd => closeCollection .mappingEnd
    | _ =>
      push .flowMappingEmptyValue
      node false false

def flowMappingValue : Read Event := do
  match ← nextKind with
  | .value =>
    let t ← takeToken
    nodeUnless (fun k => k == .flowEntry || k == .flowMappingEnd) .flowMappingKey false false t.stop
  | _ =>
    expect .flowMappingKey
    return emptyScalar (← peekToken).start

/-! ## Documents -/

/-- Passes over document ends. -/
def skipDocumentEnds : Nat → Read Unit
  | 0 => return
  | k + 1 => do
    if (← nextKind) == .documentEnd then
      discard takeToken
      skipDocumentEnds k

def fuel : Read Nat := do return 2 * (← get).scanner.text.size + 4

def document : Read Event := do
  skipDocumentEnds (← fuel)
  match ← nextKind with
  | .streamEnd =>
    let t ← takeToken
    expect .nothing
    return ⟨.streamEnd, t.start⟩
  | _ =>
    let start := (← peekToken).start
    let handles ← directives false [] (← fuel)
    modify (fun r => { r with
      handles := handles ++ defaultHandles.filter (fun h => (handles.lookup h.1).isNone) })
    let t ← peekToken
    if t.kind != .documentStart then
      fail none ("expected '<document start>', but found " ++ quoted t.kind.word) t.start
    else
      discard takeToken
      push .documentEnd
      expect .documentContent
      return ⟨.documentStart, start⟩

def isDirective : TokenKind → Bool
  | .directive _ => true
  | _ => false

/-- Reads the next event by what is expected. -/
def read : Read Event := do
  match (← get).state with
  | .streamStart =>
    let t ← takeToken
    expect .implicitDocument
    return ⟨.streamStart, t.start⟩
  | .implicitDocument =>
    let t ← peekToken
    if isDirective t.kind || t.kind == .documentStart || t.kind == .streamEnd then document
    else
      modify (fun r => { r with handles := defaultHandles })
      push .documentEnd
      expect .blockNode
      return ⟨.documentStart, t.start⟩
  | .document => document
  | .documentEnd =>
    let t ← peekToken
    if t.kind == .documentEnd then discard takeToken
    expect .document
    return ⟨.documentEnd, t.start⟩
  | .documentContent =>
    let t ← peekToken
    if isDirective t.kind || t.kind == .documentStart || t.kind == .documentEnd ||
        t.kind == .streamEnd then
      pop
      return emptyScalar t.start
    else node true false
  | .blockNode => node true false
  | .blockSequence =>
    pushMark (← takeToken).start
    blockSequenceEntry
  | .blockSequenceEntry => blockSequenceEntry
  | .indentlessEntry => indentlessEntry
  | .blockMapping =>
    pushMark (← takeToken).start
    blockMappingKey
  | .blockMappingKey => blockMappingKey
  | .blockMappingValue => blockMappingValue
  | .flowSequence =>
    pushMark (← takeToken).start
    flowSequenceEntry true
  | .flowSequenceEntry => flowSequenceEntry false
  | .flowPairKey => flowPairKey
  | .flowPairValue => flowPairValue
  | .flowPairEnd =>
    expect .flowSequenceEntry
    return ⟨.mappingEnd, (← peekToken).start⟩
  | .flowMapping =>
    pushMark (← takeToken).start
    flowMappingKey true
  | .flowMappingKey => flowMappingKey false
  | .flowMappingValue => flowMappingValue
  | .flowMappingEmptyValue =>
    expect .flowMappingKey
    return emptyScalar (← peekToken).start
  | .nothing => return ⟨.streamEnd, ← scan Scanner.mark⟩

def peek : Read Event := do
  match (← get).pending with
  | some e => return e
  | none =>
    let e ← read
    modify (fun r => { r with pending := some e })
    return e

def next : Read Event := do
  let e ← peek
  modify (fun r => { r with pending := none })
  return e

end Reader

end SiteAudit.Yaml
