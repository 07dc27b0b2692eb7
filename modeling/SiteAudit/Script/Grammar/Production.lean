import Std.Data.HashMap
import SiteAudit.Script.Grammar.Rules
import SiteAudit.Script.Token
/-!
# Productions

The rules of a grammar come apart into productions over numbered symbols.  Tokens have the first
numbers, in the order in which the rules bring them in; `0` is the end of the text.  A repetition
becomes a rule of its own, which joins two of itself into one.

* `tokens` and `names` list the symbols, `productions` the productions.
* `first` gives the tokens with which a symbol can begin, as bits of a number.
-/
namespace SiteAudit.Script

/-! ## Tokens -/

structure Terminal where
  /-- The name under which it is referred to. -/
  name : String
  /-- How a node for it is called. -/
  shown : String
  form : Form
  /-- Whether it has a node of its own. -/
  visible : Bool := true
  deriving Inhabited

/-- Tokens that are not fixed texts, with the names of their nodes. -/
def specialTokens : List Terminal := [
  ⟨"hash_bang_line", "hash_bang_line", .hashBang, true⟩,
  ⟨"html_character_reference", "html_character_reference", .characterReference, true⟩,
  ⟨"jsx_identifier", "identifier", .elementName, true⟩,
  ⟨"unescaped_double_jsx_string_fragment", "string_fragment", .doubleElementFragment, true⟩,
  ⟨"unescaped_single_jsx_string_fragment", "string_fragment", .singleElementFragment, true⟩,
  ⟨"optional_chain", "optional_chain", .fixed "?.", true⟩,
  ⟨"unescaped_double_string_fragment", "string_fragment", .doubleFragment, true⟩,
  ⟨"unescaped_single_string_fragment", "string_fragment", .singleFragment, true⟩,
  ⟨"escape_sequence", "escape_sequence", .escape, true⟩,
  ⟨"comment", "comment", .comment, true⟩,
  ⟨"regex_close", "/", .regexClose, true⟩,
  ⟨"regex_pattern", "regex_pattern", .regexPattern, true⟩,
  ⟨"regex_flags", "regex_flags", .regexFlags, true⟩,
  ⟨"number", "number", .number, true⟩,
  ⟨"private_property_identifier", "private_property_identifier", .privateName, true⟩,
  ⟨"this", "this", .fixed "this", true⟩,
  ⟨"super", "super", .fixed "super", true⟩,
  ⟨"true", "true", .fixed "true", true⟩,
  ⟨"false", "false", .fixed "false", true⟩,
  ⟨"null", "null", .fixed "null", true⟩,
  ⟨"undefined", "undefined", .fixed "undefined", true⟩,
  ⟨"static get", "static get", .staticGetter, true⟩]

/-- Tokens that the layout of the text shows; they come last. -/
def layoutTokens : List Terminal := [
  ⟨"_automatic_semicolon", "_automatic_semicolon", .layout, false⟩,
  ⟨"_template_chars", "string_fragment", .layout, true⟩,
  ⟨"_ternary_qmark", "?", .layout, true⟩,
  ⟨"html_comment", "html_comment", .layout, true⟩,
  ⟨"jsx_text", "jsx_text", .layout, true⟩]

/-- The tokens that a rule brings in, in order. -/
def tokensIn : Rule → List Terminal
  | .lit text => [⟨text, text, .fixed text, true⟩]
  | .ref name => (specialTokens.filter (fun t => t.name == name))
  | .blank => []
  | .seq a b => tokensIn a ++ tokensIn b
  | .choice a b => tokensIn a ++ tokensIn b
  | .many r => tokensIn r
  | .binding _ _ r => tokensIn r
  | .weight _ r => tokensIn r
  | .called _ r => tokensIn r
  | .property r => tokensIn r

/-- Tokens that have a definition of their own, which stands where they are brought in. -/
def definedTokens : List String :=
  rules.filterMap (fun d => if d.rule == .ref d.name then some d.name else none)

/-- The tokens that a definition brings in. -/
def tokensOf (d : Definition) : List Terminal :=
  (tokensIn d.rule).filter (fun t => d.rule == .ref d.name || !definedTokens.contains t.name)

/-- Keeps the first token of each name. -/
def firstOfEach : List Terminal → List Terminal → List Terminal
  | found, [] => found.reverse
  | found, t :: more =>
    if found.any (fun f => f.name == t.name) then firstOfEach found more
    else firstOfEach (t :: found) more

/-- All tokens: the end, names, those of the rules in order, and those of the layout. -/
def tokens : Array Terminal :=
  let leading : List Terminal :=
    [⟨"end", "end", .finish, false⟩, ⟨"identifier", "identifier", .identifier, true⟩]
  (firstOfEach [] (leading ++ rules.flatMap tokensOf) ++ layoutTokens).toArray

def tokenCount : Nat := tokens.size

def tokenNumbers : Std.HashMap String Nat :=
  Std.HashMap.ofList (tokens.toList.zipIdx.map (fun (t, n) => (t.name, n)))

def tokenNumber (name : String) : Nat := tokenNumbers.getD name 0

def identifierToken : Nat := 1

/-- Tokens that look like names. -/
def isKeyword (t : Terminal) : Bool :=
  match t.form with
  | .fixed text => !text.isEmpty && nameLength text.toList == text.length
  | _ => false

/-- The numbers of the words that look like names. -/
def keywordNumbers : Std.HashMap String Nat :=
  Std.HashMap.ofList (tokens.toList.zipIdx.filterMap (fun (t, n) =>
    match t.form with
    | .fixed text => if isKeyword t then some (text, n) else none
    | _ => none))

/-! ## Repetitions -/

/-- Definitions made for repetitions, each with what is repeated. -/
abbrev Repeats := List (Rule × Definition)

/-- Replaces repetitions by references to rules of their own; `owner` names those that are new. -/
def expand (owner : String) : Rule → StateM Repeats Rule
  | .many r => do
    let inner ← expand owner r
    let made ← get
    match made.find? (fun m => m.1 == inner) with
    | some m => return .ref m.2.name
    | none =>
      let count := (made.filter (fun m => m.2.name.startsWith (owner ++ "_repeat"))).length
      let name := owner ++ "_repeat" ++ toString (count + 1)
      set (made ++ [(inner, ⟨name, .choice (.seq (.ref name) (.ref name)) inner⟩)])
      return .ref name
  | .seq a b => do
    let a ← expand owner a
    let b ← expand owner b
    return .seq a b
  | .choice a b => do
    let a ← expand owner a
    let b ← expand owner b
    return .choice a b
  | .binding level side r => do return .binding level side (← expand owner r)
  | .weight n r => do return .weight n (← expand owner r)
  | .called name r => do return .called name (← expand owner r)
  | .property r => do return .property (← expand owner r)
  | r => return r

def expanded : List Definition × List Definition :=
  let plain := rules.filter (fun d => d.rule != .ref d.name)
  let (defs, made) := (plain.mapM (fun d => do
    let rule ← expand d.name d.rule
    return (⟨d.name, rule⟩ : Definition)) : StateM Repeats (List Definition)).run []
  (defs, made.map (·.2))

/-- The definitions behind symbols of their own. -/
def definitions : List Definition :=
  expanded.1.filter (fun d => !inlined.contains d.name) ++ expanded.2

/-- The names of the symbols that are no tokens, in order. -/
def names : Array String := (definitions.map (·.name)).toArray

def nameNumbers : Std.HashMap String Nat :=
  Std.HashMap.ofList (names.toList.zipIdx)

/-- Whether a symbol was made for a repetition. -/
def isRepeat (head : Nat) : Bool := names.size - expanded.2.length ≤ head

/-- The rules that are written out where they are used. -/
def inlinedRules : Std.HashMap String Rule :=
  Std.HashMap.ofList ((expanded.1.filter (fun d => inlined.contains d.name)).map
    (fun d => (d.name, d.rule)))

/-! ## Productions -/

/-- One symbol of a production, with what was said about it. -/
structure Step where
  symbol : Nat
  level : Binding := .plain
  side : Option Side := none
  called : Option String := none
  property : Bool := false
  deriving BEq, Hashable, Inhabited

structure Production where
  head : Nat
  steps : List Step
  weight : Int := 0
  deriving Inhabited

def symbolNumber (name : String) : Nat :=
  match nameNumbers[name]? with
  | some n => tokenCount + n
  | none => tokenNumber name

/-- The stronger of two weights. -/
def stronger (a b : Int) : Int := if a.natAbs < b.natAbs then b else a

/-- The sequences of symbols that a rule allows, each with its weight.  `step` holds what the
surroundings say; `fuel` bounds how deep rules are written out. -/
def alternatives (fuel : Nat) (step : Step) (rule : Rule) : List (List Step × Int) :=
  match fuel with
  | 0 => []
  | k + 1 =>
    match rule with
    | .blank => [([], 0)]
    | .lit text => [([{ step with symbol := tokenNumber text }], 0)]
    | .ref name =>
      match inlinedRules[name]? with
      | some r => alternatives k step r
      | none => [([{ step with symbol := symbolNumber name }], 0)]
    | .seq a b =>
      let second := alternatives k step b
      (alternatives k step a).flatMap (fun (s, v) =>
        second.map (fun (t, w) => (s ++ t, stronger v w)))
    | .choice a b => alternatives k step a ++ alternatives k step b
    | .many r => alternatives k step r
    | .binding level side r =>
      alternatives k { step with level, side := match side with
        | none => step.side
        | s => s } r
    | .weight n r => (alternatives k step r).map (fun (s, v) => (s, stronger n v))
    | .called name r => alternatives k { step with called := some name } r
    | .property r => alternatives k { step with property := true } r

def productions : Array Production :=
  (definitions.zipIdx.flatMap (fun (d, head) =>
    (alternatives 200 { symbol := 0 } d.rule).map (fun (steps, weight) =>
      { head, steps, weight : Production }))).toArray

def productionsOf : Array (List Nat) :=
  productions.toList.zipIdx.foldl
    (fun table (p, n) => table.modify p.head (· ++ [n])) (Array.replicate names.size [])

/-! ## Beginnings -/

/-- The bit that stands for a name in a place where reserved words are names. -/
def propertyBit : Nat := tokenCount

def bit (n : Nat) : Nat := 1 <<< n

/-- The tokens with which a step can begin, given those of the other symbols. -/
def firstOfStep (table : Array Nat) (s : Step) : Nat :=
  if s.symbol < tokenCount then
    if s.property && s.symbol == identifierToken then bit s.symbol ||| bit propertyBit
    else bit s.symbol
  else table.getD (s.symbol - tokenCount) 0

/-- One round of collecting beginnings. -/
def firstRound (table : Array Nat) : Array Nat :=
  productions.foldl (fun table p =>
    match p.steps with
    | [] => table
    | s :: _ =>
      let add := firstOfStep table s
      table.modify p.head (· ||| add)) table

/-- Rounds until nothing is added. -/
def firstRounds : Nat → Array Nat → Array Nat
  | 0, table => table
  | k + 1, table =>
    let next := firstRound table
    if next == table then table else firstRounds k next

/-- The tokens with which each symbol that is no token can begin. -/
def firstTable : Array Nat := firstRounds 64 (Array.replicate names.size 0)

/-- The tokens with which a step can begin. -/
def first (s : Step) : Nat := firstOfStep firstTable s

/-! ## Symbols in trees -/

/-- Whether matches of a symbol are nodes of their own. -/
def isVisible (symbol : Nat) : Bool :=
  if symbol < tokenCount then (tokens.getD symbol default).visible
  else
    let name := names.getD (symbol - tokenCount) ""
    !name.startsWith "_" && !groups.contains name && !isRepeat (symbol - tokenCount)

/-- How a node for a symbol is called. -/
def symbolName (symbol : Nat) : String :=
  if symbol < tokenCount then (tokens.getD symbol default).shown
  else names.getD (symbol - tokenCount) ""

end SiteAudit.Script
