import SiteAudit.Text.Quoted
/-!
# Places in a YAML text

A mark is a place in a text.  It is shown with its line and column and with a piece of the line it
is on, under which a caret points at the place.
-/
namespace SiteAudit.Yaml

/-- A place: its offset, line and column, all from 0. -/
structure Mark where
  index : Nat
  line : Nat
  column : Nat
  deriving DecidableEq, Repr, Inhabited

def isBreak (c : Char) : Bool :=
  c == '\n' || c == '\r' || c.toNat == 0x85 || c.toNat == 0x2028 || c.toNat == 0x2029

/-- The end of the text, which stands behind its last character. -/
def endChar : Char := Char.ofNat 0

def isBreakOrEnd (c : Char) : Bool := c == endChar || isBreak c

namespace Mark

/-- The most characters shown on each side of a place. -/
def reach : Nat := 37

/-- What is shown before a place: a mark for a cut, and the text. -/
def before (text : List Char) (m : Mark) : List Char × List Char :=
  let run := (text.take m.index).reverse.takeWhile (fun c => !isBreakOrEnd c)
  if reach ≤ run.length then (" ... ".toList, (run.take (reach - 5)).reverse)
  else ([], run.reverse)

/-- What is shown from a place on: the text, and a mark for a cut. -/
def behind (text : List Char) (m : Mark) : List Char × List Char :=
  let run := (text.drop m.index).takeWhile (fun c => !isBreakOrEnd c)
  if reach ≤ run.length then (run.take (reach - 5), " ... ".toList) else (run, [])

/-- The piece of the line around a place, with a caret below. -/
def snippet (text : List Char) (m : Mark) : List Char :=
  let (head, left) := m.before text
  let (right, tail) := m.behind text
  List.replicate 4 ' ' ++ head ++ left ++ right ++ tail ++ '\n' ::
    List.replicate (4 + head.length + left.length) ' ' ++ ['^']

/-- A place in words. -/
def shown (text : List Char) (m : Mark) : String :=
  "  in \"<unicode string>\", line " ++ toString (m.line + 1) ++ ", column " ++
    toString (m.column + 1) ++ ":\n" ++ String.ofList (m.snippet text)

end Mark

/-! ## Faults -/

/-- A fault with its place, and what was being done, with the place where that began. -/
structure Trouble where
  context : Option String := none
  contextMark : Option Mark := none
  problem : String
  mark : Mark
  deriving Repr

/-- Values that their kind does not admit. -/
inductive ValueFault where
  /-- A text that is no number, date or character of its kind. -/
  | bad (message : String)
  /-- A word that is neither of the two truth values. -/
  | noTruth (word : String)
  /-- An empty number. -/
  | emptyNumber
  /-- A text that is no point in time. -/
  | noTimestamp
  /-- A number beyond what characters or the factors of a number with a point can have. -/
  | tooLarge (message : String)
  deriving Repr

/-- Why a text is no YAML document. -/
inductive Fault where
  | trouble (t : Trouble)
  | unacceptable (c : Char) (position : Nat)
  | value (v : ValueFault)
  deriving Repr

def ValueFault.message : ValueFault → String
  | bad message => message
  | noTruth word => Text.Quoted.quoteString word
  | emptyNumber => "string index out of range"
  | noTimestamp => "'NoneType' object has no attribute 'groupdict'"
  | tooLarge message => message

/-- The wording of a fault with places.  The context's place is left out where it is that of the
problem. -/
def Trouble.message (text : List Char) (t : Trouble) : String :=
  let contextPlace := match t.contextMark with
    | some m => if m.line = t.mark.line ∧ m.column = t.mark.column then [] else [m.shown text]
    | none => []
  "\n".intercalate (t.context.toList ++ contextPlace ++ [t.problem, t.mark.shown text])

def Fault.message (text : List Char) : Fault → String
  | trouble t => t.message text
  | unacceptable c position =>
    "unacceptable character #x" ++ String.ofList (Text.Quoted.hex 4 c.toNat) ++
      ": special characters are not allowed\n  in \"<unicode string>\", position " ++
      toString position
  | value v => v.message

end SiteAudit.Yaml
