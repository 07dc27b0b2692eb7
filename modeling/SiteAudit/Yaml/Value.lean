import SiteAudit.Yaml.Node
/-!
# Values of a YAML document

Every node of a document stands for a value, chosen by its tag.  A scalar is its value; a collection
is known by the number of its node, because it may hold itself.  The collections of a document are
filled in the order in which they are met, so the first fault in that order is the one reported.

* `Value` and `Collection` are what nodes stand for.
* `Document.ofText` reads the values of a text.
* `Document.get?` looks up a key of a mapping; of equal keys the last one counts.
-/
namespace SiteAudit.Yaml

/-- What a node stands for. -/
inductive Value where
  | null
  | truth (b : Bool)
  | int (n : Int)
  | float (x : Float)
  | text (s : String)
  | bytes (bs : List Nat)
  | time
  /-- The collection with the number of its node. -/
  | collection (number : Nat)
  deriving Inhabited

/-- Collections cannot be keys. -/
def Value.isCollection : Value → Bool
  | collection _ => true
  | _ => false

inductive Collection where
  | sequence (items : List Value)
  | mapping (pairs : List (Value × Value))
  | set (members : List Value)
  /-- A list of pairs, which is no mapping. -/
  | pairs (items : List (Value × Value))
  deriving Inhabited

/-- The value of a document, with its collections by number. -/
structure Document where
  root : Value := .null
  collections : List (Nat × Collection) := []

structure Builder where
  nodes : Array Node
  /-- The numbers of the collections that were met, those not yet filled last. -/
  met : List Nat := []
  filled : List (Nat × Collection) := []

namespace Builder

abbrev Build := StateT Builder (Except Fault)

def nodeAt (number : Nat) : Build Node := do return (← get).nodes.getD number default

def fail {α : Type} (problem : String) (mark : Mark) : Build α :=
  throw (.trouble { problem, mark })

def failIn {α : Type} (context : String) (contextMark : Mark) (problem : String) (mark : Mark) :
    Build α :=
  throw (.trouble { context := some context, contextMark := some contextMark, problem, mark })

def lift {α : Type} : Except ValueFault α → Build α
  | .ok a => return a
  | .error fault => throw (.value fault)

/-! ## Scalars -/

/-- The text of a scalar.  A mapping with a default value stands for the text of that value. -/
def scalarText (number : Nat) : Nat → Build String
  | 0 => do fail "expected a scalar node, but found mapping" (← nodeAt number).start
  | k + 1 => do
    let node ← nodeAt number
    match node.content with
    | .scalar text => return text
    | .sequence _ => fail "expected a scalar node, but found sequence" node.start
    | .mapping pairs =>
      let nodes := (← get).nodes
      match pairs.find? (fun (key, _) => (nodes.getD key default).tag == Tag.value) with
      | some (_, value) => scalarText value k
      | none => fail "expected a scalar node, but found mapping" node.start

/-- Tags of collections. -/
def collectionTags : List String := [Tag.seq, Tag.map, Tag.set, Tag.omap, Tag.pairs]

def valueOf (number : Nat) : Build Value := do
  let node ← nodeAt number
  if collectionTags.contains node.tag then
    modify (fun b => if b.met.contains number then b else { b with met := b.met ++ [number] })
    return .collection number
  else
    let text : Build String := do scalarText number ((← get).nodes.size + 1)
    if node.tag == Tag.null then
      discard text
      return .null
    else if node.tag == Tag.bool then return .truth (← lift (truthValue (← text)))
    else if node.tag == Tag.int then return .int (← lift (intValue (← text)))
    else if node.tag == Tag.float then return .float (← lift (floatValue (← text)))
    else if node.tag == Tag.str then return .text (← text)
    else if node.tag == Tag.timestamp then
      lift (checkTimestamp (← text))
      return .time
    else if node.tag == Tag.binary then
      match binaryValue (← text) with
      | .ok bytes => return .bytes bytes
      | .error problem => fail problem node.start
    else
      fail ("could not determine a constructor for the tag " ++ Reader.quoted node.tag) node.start

/-! ## Merging -/

def mergeContext : String := "while constructing a mapping"

def setPairs (number : Nat) (pairs : List (Nat × Nat)) : Build Unit :=
  modify (fun b => { b with
    nodes := b.nodes.modify number (fun n => { n with content := .mapping pairs }) })

def pairsOf (number : Nat) : Build (List (Nat × Nat)) := do
  match (← nodeAt number).content with
  | .mapping pairs => return pairs
  | _ => return []

mutual

/-- Takes the pairs of a mapping that ask for merging out of it and puts the pairs of what they
name in front.  A key that stands for the default value becomes a text. -/
def flatten (number : Nat) : Nat → Build Unit
  | 0 => return
  | k + 1 => do
    let merged ← flattenFrom number 0 [] k
    if !merged.isEmpty then setPairs number (merged ++ (← pairsOf number))

/-- Goes through the pairs from `index` on and gives `merged` with the pairs to be put in front. -/
def flattenFrom (number index : Nat) (merged : List (Nat × Nat)) :
    Nat → Build (List (Nat × Nat))
  | 0 => return merged
  | k + 1 => do
    let pairs ← pairsOf number
    match pairs[index]? with
    | none => return merged
    | some (key, value) =>
      let keyNode ← nodeAt key
      if keyNode.tag == Tag.merge then
        setPairs number (pairs.eraseIdx index)
        let node ← nodeAt number
        let valueNode ← nodeAt value
        match valueNode.content with
        | .mapping _ =>
          flatten value k
          flattenFrom number index (merged ++ (← pairsOf value)) k
        | .sequence items =>
          let found ← flattenAll node.start items [] k
          flattenFrom number index (merged ++ found) k
        | .scalar _ =>
          failIn mergeContext node.start
            ("expected a mapping or list of mappings for merging, but found " ++
              valueNode.content.word) valueNode.start
      else if keyNode.tag == Tag.value then
        modify (fun b => { b with
          nodes := b.nodes.modify key (fun n => { n with tag := Tag.str }) })
        flattenFrom number (index + 1) merged k
      else flattenFrom number (index + 1) merged k

/-- The pairs of several mappings to be merged; earlier mappings come last, so that they win. -/
def flattenAll (start : Mark) (items : List Nat) (merged : List (Nat × Nat)) :
    Nat → Build (List (Nat × Nat))
  | 0 => return merged
  | k + 1 =>
    match items with
    | [] => return merged
    | item :: more => do
      let node ← nodeAt item
      match node.content with
      | .mapping _ =>
        flatten item k
        flattenAll start more ((← pairsOf item) ++ merged) k
      | content =>
        failIn mergeContext start ("expected a mapping for merging, but found " ++ content.word)
          node.start

end

/-- Steps that flattening takes at most. -/
def flattenFuel (nodes : Array Node) : Nat :=
  4 * (nodes.size + 2) * (nodes.size + 2)

/-! ## Collections -/

/-- The values of the pairs of a mapping. -/
def mappingPairs (number : Nat) : Build (List (Value × Value)) := do
  let node ← nodeAt number
  match node.content with
  | .mapping _ =>
    flatten number (flattenFuel (← get).nodes)
    (← pairsOf number).mapM (fun (key, value) => do
      let k ← valueOf key
      if k.isCollection then
        failIn mergeContext node.start "found unhashable key" (← nodeAt key).start
      else
        let v ← valueOf value
        return (k, v))
  | content => fail ("expected a mapping node, but found " ++ content.word) node.start

/-- The values of a sequence of mappings with one pair each. -/
def singlePairs (context : String) (number : Nat) : Build (List (Value × Value)) := do
  let node ← nodeAt number
  match node.content with
  | .sequence items =>
    items.mapM (fun item => do
      let sub ← nodeAt item
      match sub.content with
      | .mapping [(key, value)] => do
        let k ← valueOf key
        let v ← valueOf value
        return (k, v)
      | .mapping pairs =>
        failIn context node.start
          ("expected a single mapping item, but found " ++ toString pairs.length ++ " items")
          sub.start
      | content =>
        failIn context node.start
          ("expected a mapping of length 1, but found " ++ content.word) sub.start)
  | content =>
    failIn context node.start ("expected a sequence, but found " ++ content.word) node.start

/-- What a collection holds, by its tag. -/
def fill (number : Nat) : Build Collection := do
  let node ← nodeAt number
  if node.tag == Tag.seq then
    match node.content with
    | .sequence items => return .sequence (← items.mapM valueOf)
    | content => fail ("expected a sequence node, but found " ++ content.word) node.start
  else if node.tag == Tag.map then return .mapping (← mappingPairs number)
  else if node.tag == Tag.set then return .set ((← mappingPairs number).map (·.1))
  else if node.tag == Tag.omap then
    return .pairs (← singlePairs "while constructing an ordered map" number)
  else return .pairs (← singlePairs "while constructing pairs" number)

/-- Fills the collections that were met, from the `done`-th on. -/
def fillAll (done : Nat) : Nat → Build Unit
  | 0 => return
  | k + 1 => do
    match (← get).met[done]? with
    | none => return
    | some number =>
      let c ← fill number
      modify (fun b => { b with filled := (number, c) :: b.filled })
      fillAll (done + 1) k

end Builder

namespace Document

/-- The values of the one document of a text; nothing stands for no document. -/
def ofText (text : List Char) : Except Fault Document := do
  let (graph, root) ← Graph.ofText text
  match root with
  | none => return {}
  | some number =>
    let build : Builder.Build Value := do
      let value ← Builder.valueOf number
      Builder.fillAll 0 (graph.nodes.size + 1)
      return value
    let (value, built) ← build.run { nodes := graph.nodes }
    return { root := value, collections := built.filled }

/-- What the collection that a value stands for holds. -/
def collection? (d : Document) : Value → Option Collection
  | .collection number => d.collections.lookup number
  | _ => none

/-- The pairs of a mapping; none for any other value. -/
def pairs (d : Document) (v : Value) : List (Value × Value) :=
  match d.collection? v with
  | some (.mapping ps) => ps
  | _ => []

/-- The value of a key of a mapping; the last of equal keys counts. -/
def get? (d : Document) (v : Value) (key : String) : Option Value :=
  ((d.pairs v).reverse.find? (fun (k, _) =>
    match k with
    | .text s => s == key
    | _ => false)).map (·.2)

end Document

/-- How the documents of texts are read. -/
abbrev Read := List Char → Except Fault Document

end SiteAudit.Yaml
