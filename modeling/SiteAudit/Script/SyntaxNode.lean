/-!
# Syntax trees

A syntax tree of a script, as far as its faults are concerned.  A fault is a node for text that
fits nowhere, or a node for a token that is missing.  Each node says whether it has faults in it,
so a search can pass over what has none.

* `firstFault` finds the first fault in document order among the nodes that the flags lead to.
-/
namespace SiteAudit.Script

/-- A node of a syntax tree.  Places are in bytes; rows and columns count from 0. -/
inductive SyntaxNode where
  | mk (kind : String) (missing hasFault : Bool) (row column start stop : Nat)
      (children : List SyntaxNode)
  deriving Repr, Inhabited

namespace SyntaxNode

def kind : SyntaxNode → String
  | mk kind _ _ _ _ _ _ _ => kind

/-- Whether the node stands for a token that is not there. -/
def missing : SyntaxNode → Bool
  | mk _ missing _ _ _ _ _ _ => missing

/-- Whether the node says that there are faults in it. -/
def hasFault : SyntaxNode → Bool
  | mk _ _ hasFault _ _ _ _ _ => hasFault

def row : SyntaxNode → Nat
  | mk _ _ _ row _ _ _ _ => row

def column : SyntaxNode → Nat
  | mk _ _ _ _ column _ _ _ => column

/-- The offset of the first byte. -/
def start : SyntaxNode → Nat
  | mk _ _ _ _ _ start _ _ => start

/-- The offset behind the last byte. -/
def stop : SyntaxNode → Nat
  | mk _ _ _ _ _ _ stop _ => stop

def children : SyntaxNode → List SyntaxNode
  | mk _ _ _ _ _ _ _ children => children

/-- The kind of a node for text that fits nowhere. -/
def errorKind : String := "ERROR"

/-- Whether the node itself is a fault. -/
def isFault (n : SyntaxNode) : Bool := n.kind == errorKind || n.missing

/-- Whether the search looks at a node below the root. -/
def isFlagged (n : SyntaxNode) : Bool := n.hasFault || n.missing

mutual

def size : SyntaxNode → Nat
  | mk _ _ _ _ _ _ _ children => 1 + sizes children

def sizes : List SyntaxNode → Nat
  | [] => 0
  | n :: more => n.size + sizes more

end

theorem sizes_append (a b : List SyntaxNode) : sizes (a ++ b) = sizes a + sizes b := by
  induction a with
  | nil => simp [sizes]
  | cons n more ih => simp [sizes, ih]; omega

theorem sizes_filter_le (p : SyntaxNode → Bool) (a : List SyntaxNode) :
    sizes (a.filter p) ≤ sizes a := by
  induction a with
  | nil => simp
  | cons n more ih => by_cases h : p n <;> simp [h, sizes] <;> omega

theorem size_eq (n : SyntaxNode) : n.size = 1 + sizes n.children := by
  cases n; simp [size, children]

/-- Searches the nodes of `pending`, the next one first.  The children of a node come before what
was pending, so nodes are met in document order. -/
def searchPending : List SyntaxNode → Option SyntaxNode
  | [] => none
  | n :: rest =>
    if n.isFault then some n else searchPending (n.children.filter isFlagged ++ rest)
termination_by pending => sizes pending
decreasing_by
  have h := sizes_filter_le isFlagged n.children
  simp only [sizes, sizes_append, size_eq]
  omega

/-- The first fault of a tree. -/
def firstFault (root : SyntaxNode) : Option SyntaxNode := searchPending [root]

end SyntaxNode

end SiteAudit.Script
