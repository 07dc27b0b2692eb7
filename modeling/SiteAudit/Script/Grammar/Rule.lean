/-!
# Rules of a grammar

A grammar is a list of named rules.  A rule is built from tokens and from other rules by sequence,
choice and repetition; parts of it may be given a precedence, a side to lean to, a weight, or
another name for what they match.
-/
namespace SiteAudit.Script

/-- How tightly a part of a rule binds: by a name from the orders of precedence, or plainly. -/
inductive Binding where
  | plain
  | named (name : String)
  deriving DecidableEq, Repr, Inhabited, Hashable

/-- The side to which a chain of equal precedence leans. -/
inductive Side where
  | left
  | right
  deriving DecidableEq, Repr, Inhabited, Hashable

/-- The right side of a rule. -/
inductive Rule where
  /-- A token with a fixed text. -/
  | lit (text : String)
  /-- A token or another rule, by its name. -/
  | ref (name : String)
  | blank
  | seq (first second : Rule)
  | choice (first second : Rule)
  /-- One or more times. -/
  | many (rule : Rule)
  | binding (level : Binding) (side : Option Side) (rule : Rule)
  /-- A weight that decides between readings of the same text. -/
  | weight (n : Int) (rule : Rule)
  /-- What the rule matches goes by another name. -/
  | called (name : String) (rule : Rule)
  /-- A place where reserved words are names. -/
  | property (rule : Rule)
  deriving DecidableEq, Repr, Inhabited

namespace Rule

/-- One after the other. -/
def all : List Rule → Rule
  | [] => blank
  | [r] => r
  | r :: more => seq r (all more)

/-- One of several. -/
def oneOf : List Rule → Rule
  | [] => blank
  | [r] => r
  | r :: more => choice r (oneOf more)

/-- One of several fixed texts. -/
def words (texts : List String) : Rule := oneOf (texts.map lit)

def optional (r : Rule) : Rule := choice r blank

/-- Any number of times. -/
def any (r : Rule) : Rule := choice (many r) blank

/-- At least one, with commas between. -/
def commas1 (r : Rule) : Rule := seq r (any (seq (lit ",") r))

/-- Any number, with commas between. -/
def commas (r : Rule) : Rule := optional (commas1 r)

def prec (name : String) (r : Rule) : Rule := binding (.named name) none r

def precLeft (name : String) (r : Rule) : Rule := binding (.named name) (some .left) r

def precRight (name : String) (r : Rule) : Rule := binding (.named name) (some .right) r

def leftward (r : Rule) : Rule := binding .plain (some .left) r

def rightward (r : Rule) : Rule := binding .plain (some .right) r

end Rule

structure Definition where
  name : String
  rule : Rule
  deriving Repr, Inhabited

/-- An entry of an order of precedence: a name, or all that a rule matches. -/
inductive Rank where
  | level (name : String)
  | rule (name : String)
  deriving DecidableEq, Repr

end SiteAudit.Script
