import SiteAudit.Yaml.Event
import SiteAudit.Yaml.Scalar
/-!
# Nodes of a YAML document

A document is a graph of nodes: an alias is the node that its anchor names, so a node may occur
more than once and even inside itself.  Nodes are numbered in the order in which they begin.

* `Graph` holds the nodes of a document.
* `Graph.ofText` reads the one document of a text.
-/
namespace SiteAudit.Yaml

/-- What a node holds; other nodes by their numbers. -/
inductive Content where
  | scalar (text : String)
  | sequence (items : List Nat)
  | mapping (pairs : List (Nat × Nat))
  deriving Repr, Inhabited

/-- How faults name the content of a node. -/
def Content.word : Content → String
  | scalar _ => "scalar"
  | sequence _ => "sequence"
  | mapping _ => "mapping"

structure Node where
  tag : String
  content : Content
  start : Mark
  deriving Repr, Inhabited

/-- The nodes of a document; node 0 is the root. -/
structure Graph where
  nodes : Array Node := #[]

structure Composer where
  reader : Reader
  nodes : Array Node := #[]
  anchors : List (String × Nat) := []

namespace Composer

abbrev Compose := StateT Composer (Except Fault)

def read {α : Type} (x : Reader.Read α) : Compose α := do
  let c ← get
  let (a, reader) ← (x.run c.reader : Except Fault _)
  set { c with reader }
  return a

/-- Adds a node that is about to begin. -/
def add (anchor : Option String) (node : Node) : Compose Nat := do
  let c ← get
  let number := c.nodes.size
  set { c with
    nodes := c.nodes.push node
    anchors := match anchor with
      | some name => (name, number) :: c.anchors
      | none => c.anchors }
  return number

def setContent (number : Nat) (content : Content) : Compose Unit :=
  modify (fun c => { c with nodes := c.nodes.modify number (fun n => { n with content }) })

/-- The anchor of an event. -/
def anchorOf : EventKind → Option String
  | .scalar anchor .. => anchor
  | .sequenceStart anchor _ => anchor
  | .mappingStart anchor _ => anchor
  | _ => none

/-- The tag that is written, unless it asks for the usual one. -/
def writtenTag (tag : Option String) (usual : String) : String :=
  match tag with
  | none => usual
  | some "!" => usual
  | some t => t

/-- An anchor may be used once only. -/
def checkAnchor (e : Event) : Compose Unit := do
  match anchorOf e.kind with
  | none => return
  | some name =>
    let c ← get
    match c.anchors.lookup name with
    | none => return
    | some number =>
      throw (.trouble {
        context := some ("found duplicate anchor " ++ Reader.quoted name ++ "; first occurrence")
        contextMark := (c.nodes[number]?).map (·.start)
        problem := "second occurrence", mark := e.start })

mutual

/-- Composes one node and gives its number. -/
def node : Nat → Compose Nat
  | 0 => return 0
  | k + 1 => do
    let e ← read Reader.peek
    match e.kind with
    | .alias name =>
      discard (read Reader.next)
      match (← get).anchors.lookup name with
      | some number => return number
      | none =>
        throw (.trouble {
          problem := "found undefined alias " ++ Reader.quoted name, mark := e.start })
    | .scalar anchor tag resolve text =>
      checkAnchor e
      discard (read Reader.next)
      let usual := if resolve then resolvedTag text else Tag.str
      add anchor ⟨writtenTag tag usual, .scalar text, e.start⟩
    | .sequenceStart anchor tag =>
      checkAnchor e
      discard (read Reader.next)
      let number ← add anchor ⟨writtenTag tag Tag.seq, .sequence [], e.start⟩
      let found ← items [] k
      setContent number (.sequence found)
      return number
    | .mappingStart anchor tag =>
      checkAnchor e
      discard (read Reader.next)
      let number ← add anchor ⟨writtenTag tag Tag.map, .mapping [], e.start⟩
      let found ← pairs [] k
      setContent number (.mapping found)
      return number
    | _ => return 0

def items (found : List Nat) : Nat → Compose (List Nat)
  | 0 => return found
  | k + 1 => do
    let e ← read Reader.peek
    if e.kind == .sequenceEnd then
      discard (read Reader.next)
      return found
    else
      let n ← node k
      items (found ++ [n]) k

def pairs (found : List (Nat × Nat)) : Nat → Compose (List (Nat × Nat))
  | 0 => return found
  | k + 1 => do
    let e ← read Reader.peek
    if e.kind == .mappingEnd then
      discard (read Reader.next)
      return found
    else
      let key ← node k
      let value ← node k
      pairs (found ++ [(key, value)]) k

end

/-- Composes the only document of a text, if there is one. -/
def single : Compose (Option Nat) := do
  discard (read Reader.next)
  let first ← read Reader.peek
  let root ←
    if first.kind == .streamEnd then pure none
    else do
      discard (read Reader.next)
      let fuel := 4 * (← get).reader.scanner.text.size + 16
      let root ← node fuel
      discard (read Reader.next)
      pure (some root)
  let last ← read Reader.peek
  if last.kind != .streamEnd then
    let c ← get
    throw (.trouble {
      context := some "expected a single document in the stream"
      contextMark := (root.bind (fun n => c.nodes[n]?)).map (·.start)
      problem := "but found another document", mark := last.start })
  else return root

end Composer

/-- Characters that a text may hold. -/
def isAcceptable (c : Char) : Bool :=
  let n := c.toNat
  n == 0x09 || n == 0x0A || n == 0x0D || (0x20 ≤ n && n ≤ 0x7E) || n == 0x85 ||
    (0xA0 ≤ n && n ≤ 0xD7FF) || (0xE000 ≤ n && n ≤ 0xFFFD) || 0x10000 ≤ n

/-- The first character that a text may not hold. -/
def unacceptable? (position : Nat) : List Char → Option Fault
  | [] => none
  | c :: r =>
    if isAcceptable c then unacceptable? (position + 1) r else some (.unacceptable c position)

/-- The graph of the one document of a text and the number of its root; no number for a text
without a document. -/
def Graph.ofText (text : List Char) : Except Fault (Graph × Option Nat) :=
  match unacceptable? 0 text with
  | some fault => .error fault
  | none => do
    let (root, c) ← Composer.single.run { reader := { scanner := Scanner.ofText text } }
    return ({ nodes := c.nodes }, root)

end SiteAudit.Yaml
