import SiteAudit.Decimal.Shortest
import SiteAudit.Issue
import SiteAudit.Text.Quoted
/-!
# JSON values

Values of JSON and their text.  Only ASCII is written: other characters are escaped, those beyond
the sixteen-bit range as two halves.  Read from escapes, a string may also hold half of such a
pair, and then it is no text.

* `Str` is a string of either kind.
* `Value.text` writes a value in one line.
* `Value.indented` writes one member a line, two spaces deeper for each level.
* `Response.toJson` is the response to a batch as a value.
-/
namespace SiteAudit.Json

/-- Whether a number is half of a pair that stands for one character. -/
def isHalf (n : Nat) : Bool := 0xD800 ≤ n && n < 0xE000

/-- A string: a text, or code points among which there is half of a pair. -/
inductive Str where
  | text (s : String)
  | broken (points : List Nat) (half : points.any isHalf = true)
  deriving DecidableEq, Repr

instance : Coe String Str := ⟨.text⟩

instance : Inhabited Str := ⟨.text ""⟩

def Str.ofPoints (points : List Nat) : Str :=
  if half : points.any isHalf = true then .broken points half
  else .text (String.ofList (points.map Char.ofNat))

def Str.isText : Str → Bool
  | text _ => true
  | broken .. => false

/-- A value; the members of an object in the order in which they were first given. -/
inductive Value where
  | null
  | bool (b : Bool)
  | int (n : Int)
  | float (x : Float)
  | string (s : Str)
  | array (items : List Value)
  | object (members : List (Str × Value))
  deriving Inhabited

/-! ## Strings -/

def unitText (n : Nat) : List Char := '\\' :: 'u' :: Text.Quoted.hex 4 n

/-- One character between double quotes. -/
def escape (c : Char) : List Char :=
  let n := c.toNat
  if c = '"' || c = '\\' then ['\\', c]
  else if c = '\n' then ['\\', 'n']
  else if c = '\r' then ['\\', 'r']
  else if c = '\t' then ['\\', 't']
  else if n = 0x08 then ['\\', 'b']
  else if n = 0x0C then ['\\', 'f']
  else if 0x20 ≤ n && n < 0x7F then [c]
  else if n < 0x10000 then unitText n
  else unitText (0xD800 + (n - 0x10000) / 0x400) ++ unitText (0xDC00 + (n - 0x10000) % 0x400)

/-- One code point between double quotes. -/
def escapePoint (n : Nat) : List Char := if isHalf n then unitText n else escape (Char.ofNat n)

/-- A string with its quotes. -/
def stringText : Str → String
  | .text s => String.ofList ('"' :: s.toList.flatMap escape ++ ['"'])
  | .broken points _ => String.ofList ('"' :: points.flatMap escapePoint ++ ['"'])

/-! ## Whole values -/

def indent (level : Nat) : String := String.ofList ('\n' :: List.replicate (2 * level) ' ')

namespace Value

mutual

/-- A value in one line. -/
def text : Value → String
  | null => "null"
  | bool b => if b then "true" else "false"
  | int n => toString n
  | float x => Decimal.floatText x
  | string s => stringText s
  | array items => "[" ++ ", ".intercalate (texts items) ++ "]"
  | object members => "\x7b" ++ ", ".intercalate (memberTexts members) ++ "\x7d"

def texts : List Value → List String
  | [] => []
  | v :: more => v.text :: texts more

def memberTexts : List (Str × Value) → List String
  | [] => []
  | (key, v) :: more => (stringText key ++ ": " ++ v.text) :: memberTexts more

end

mutual

/-- A value over several lines; `level` is how deep it stands. -/
def indentedAt (level : Nat) : Value → String
  | array [] => "[]"
  | array items =>
    let inner := indent (level + 1)
    "[" ++ inner ++ ("," ++ inner).intercalate (indentedItems (level + 1) items) ++
      indent level ++ "]"
  | object [] => "\x7b\x7d"
  | object members =>
    let inner := indent (level + 1)
    "\x7b" ++ inner ++ ("," ++ inner).intercalate (indentedMembers (level + 1) members) ++
      indent level ++ "\x7d"
  | v => v.text

def indentedItems (level : Nat) : List Value → List String
  | [] => []
  | v :: more => indentedAt level v :: indentedItems level more

def indentedMembers (level : Nat) : List (Str × Value) → List String
  | [] => []
  | (key, v) :: more => (stringText key ++ ": " ++ indentedAt level v) :: indentedMembers level more

end

def indented (v : Value) : String := v.indentedAt 0

/-- The value of a key of an object. -/
def get? (v : Value) (key : Str) : Option Value :=
  match v with
  | object members => members.lookup key
  | _ => none

mutual

/-- Whether every number of a value has a text in JSON, and every string is one. -/
def isWritable : Value → Bool
  | float x => x.isFinite
  | string s => s.isText
  | array items => areWritable items
  | object members => membersWritable members
  | _ => true

def areWritable : List Value → Bool
  | [] => true
  | v :: more => v.isWritable && areWritable more

def membersWritable : List (Str × Value) → Bool
  | [] => true
  | (key, v) :: more => key.isText && v.isWritable && membersWritable more

end

end Value

end SiteAudit.Json

namespace SiteAudit

open Json (Value)

def Issue.toJson (i : Issue) : Value :=
  .object [("message", .string i.message), ("filePath", .string i.path), ("line", .int i.line),
    ("column", .int i.column), ("severity", .string i.severity.word), ("ruleId", .string i.rule),
    ("source", .string i.source)]

def Tally.toJson (t : Tally) : Value :=
  .object [("errorCount", .int t.errors), ("warningCount", .int t.warnings),
    ("infoCount", .int t.infos)]

def CheckResult.toJson (c : CheckResult) : Value :=
  .object [("issues", .array (c.issues.map Issue.toJson)), ("summary", c.tally.toJson)]

def Response.toJson (r : Response) : Value :=
  .object [("success", .bool r.success), ("lint", r.lint.toJson),
    ("typecheck", r.typecheck.toJson)]

end SiteAudit
