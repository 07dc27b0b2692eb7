import SiteAudit.Text.Blank
/-!
# Tokens of scripts

A form of token is matched at the front of a text and takes as much as it can.  Of several forms
that match, the one of higher rank wins, then the longer match, then the more definite form, then
the one that comes first in the grammar.

* `Form.length?` is how much a form matches.
* `best` chooses among forms.
-/
namespace SiteAudit.Script

open Text (after?)

/-- What tokens look like. -/
inductive Form where
  /-- The end of the text. -/
  | finish
  /-- A fixed text. -/
  | fixed (text : String)
  | identifier
  | privateName
  | number
  | hashBang
  | comment
  | doubleFragment
  | singleFragment
  | doubleElementFragment
  | singleElementFragment
  | escape
  | regexPattern
  | regexClose
  | regexFlags
  | elementName
  | characterReference
  | staticGetter
  /-- A token that only the layout of the text shows. -/
  | layout
  deriving DecidableEq, Repr, Inhabited

/-! ## Characters -/

def isSpaceMark (c : Char) : Bool :=
  let n := c.toNat
  n == 0xA0 || n == 0x1680 || (0x2000 ≤ n && n ≤ 0x200B) || n == 0x2028 || n == 0x2029 ||
    n == 0x202F || n == 0x205F || n == 0x2060 || n == 0x3000 || n == 0xFEFF

/-- White space of the ASCII range. -/
def isPlainSpace (c : Char) : Bool :=
  c == ' ' || (0x09 ≤ c.toNat && c.toNat ≤ 0x0D)

/-- Characters between tokens. -/
def isSeparator (c : Char) : Bool := isPlainSpace c || isSpaceMark c

def isDigit (c : Char) : Bool := '0' ≤ c && c ≤ '9'

def isLowerLetter (c : Char) : Bool := 'a' ≤ c && c ≤ 'z'

def isLetter (c : Char) : Bool := isLowerLetter c || ('A' ≤ c && c ≤ 'Z')

def isHexDigit (c : Char) : Bool := isDigit c || ('a' ≤ c && c ≤ 'f') || ('A' ≤ c && c ≤ 'F')

/-- Marks that cannot be part of a name. -/
def nameMarks : List Char := ":;`\"'@#.,|^&<=>+-*/\\%?!~()[]\x7b\x7d".toList

/-- Characters behind the first one of a name. -/
def isNamePart (c : Char) : Bool :=
  0x1F < c.toNat && !isSeparator c && !nameMarks.contains c

/-! ## Lengths -/

/-- The length of a run of units; `unit` gives the length of the unit in front, 0 for none, and
`inside` characters of the current unit are still to come. -/
def runLength (unit : List Char → Nat) : Nat → List Char → Nat
  | _, [] => 0
  | inside + 1, _ :: r => 1 + runLength unit inside r
  | 0, c :: r =>
    match unit (c :: r) with
    | 0 => 0
    | n + 1 => 1 + runLength unit n r

/-- The length of a run of characters. -/
def spanLength (p : Char → Bool) : List Char → Nat
  | [] => 0
  | c :: r => if p c then 1 + spanLength p r else 0

/-- Nothing for an empty match. -/
def nonZero (n : Nat) : Option Nat := if n = 0 then none else some n

def escapedNameLength : List Char → Nat
  | '\\' :: 'u' :: '\x7b' :: r =>
    let n := spanLength isHexDigit r
    if n != 0 && (r.drop n).head? == some '\x7d' then n + 4 else 0
  | '\\' :: 'u' :: r => if (r.take 4).length == 4 && (r.take 4).all isHexDigit then 6 else 0
  | _ => 0

def nameUnit (s : List Char) : Nat :=
  match s with
  | [] => 0
  | c :: _ => if isNamePart c then 1 else escapedNameLength s

def nameLength (s : List Char) : Nat :=
  match s with
  | [] => 0
  | c :: _ => if isDigit c then 0 else runLength nameUnit 0 s

/-- The length of digits with single underscores between them. -/
def digitsLength (p : Char → Bool) : List Char → Nat
  | [] => 0
  | '_' :: _ => 0
  | s => runLength (fun t => match t with
      | '_' :: c :: _ => if p c then 2 else 0
      | c :: _ => if p c then 1 else 0
      | [] => 0) 0 s

def exponentLength : List Char → Nat
  | e :: r =>
    if e == 'e' || e == 'E' then
      let sign := match r with
        | '+' :: _ => 1
        | '-' :: _ => 1
        | _ => 0
      match digitsLength isDigit (r.drop sign) with
      | 0 => 0
      | n => 1 + sign + n
    else 0
  | [] => 0

def basedLength : List Char → Nat
  | '0' :: mark :: r =>
    let digits :=
      if mark == 'x' || mark == 'X' then digitsLength isHexDigit r
      else if mark == 'b' || mark == 'B' then digitsLength (fun c => c == '0' || c == '1') r
      else if mark == 'o' || mark == 'O' then digitsLength (fun c => '0' ≤ c && c ≤ '7') r
      else 0
    if digits == 0 then 0 else digits + 2
  | _ => 0

/-- Whether digits may stand before a point or an exponent: a single zero, or digits of which the
first or the second is the first that counts. -/
def isWholePart : List Char → Bool
  | ['0'] => true
  | '0' :: c :: _ => '1' ≤ c && c ≤ '9'
  | c :: _ => '1' ≤ c && c ≤ '9'
  | [] => false

def decimalLength (s : List Char) : Nat :=
  match s with
  | '.' :: r =>
    match digitsLength isDigit r with
    | 0 => 0
    | n => 1 + n + exponentLength (r.drop n)
  | _ =>
    let whole := digitsLength isDigit s
    if whole == 0 then 0
    else if !isWholePart (s.take whole) then
      -- a zero in front of digits that do not count can still end before a point
      whole
    else
      let rest := s.drop whole
      match rest with
      | '.' :: r =>
        let places := digitsLength isDigit r
        whole + 1 + places + exponentLength (r.drop places)
      | _ => whole + exponentLength rest

def numberLength (s : List Char) : Nat :=
  let based := basedLength s
  if based != 0 then if (s.drop based).head? == some 'n' then based + 1 else based
  else
    let decimal := decimalLength s
    let whole := digitsLength isDigit s
    if whole != 0 && (s.drop whole).head? == some 'n' then max decimal (whole + 1) else decimal

def lineLength (s : List Char) : Nat :=
  spanLength (fun c => c != '\r' && c != '\n' && c.toNat != 0x2028 && c.toNat != 0x2029) s

def blockLength : List Char → Option Nat
  | [] => none
  | '*' :: '/' :: _ => some 2
  | _ :: r => (blockLength r).map (· + 1)

def commentLength : List Char → Option Nat
  | '/' :: '/' :: r => some (2 + lineLength r)
  | '/' :: '*' :: r => (blockLength r).map (· + 2)
  | _ => none

def escapeLength : List Char → Option Nat
  | '\\' :: c :: r =>
    if c == 'x' then if (r.take 2).length == 2 && (r.take 2).all isHexDigit then some 4 else none
    else if c == 'u' then nonZero (escapedNameLength ('\\' :: c :: r))
    else if '0' ≤ c && c ≤ '7' then
      some (2 + spanLength (fun d => '0' ≤ d && d ≤ '7') (r.take 2))
    else if c == '\r' || c == '?' then
      match r with
      | d :: _ => if d == '\n' || d.toNat == 0x2028 || d.toNat == 0x2029 then some 3 else some 2
      | [] => some 2
    else some 2
  | _ => none

/-- The length of one unit of a class of characters in a pattern. -/
def classUnit : List Char → Nat
  | '\\' :: c :: _ => if c == '\n' then 0 else 2
  | '\\' :: [] => 0
  | c :: _ => if c == ']' || c == '\n' then 0 else 1
  | [] => 0

def patternUnit : List Char → Nat
  | '[' :: r =>
    let inner := runLength classUnit 0 r
    if (r.drop inner).head? == some ']' then inner + 2 else 0
  | '\\' :: c :: _ => if c == '\n' then 0 else 2
  | '\\' :: [] => 0
  | c :: _ => if c == '/' || c == '\n' then 0 else 1
  | [] => 0

/-- The length of one unit of an attribute's value between quotes. -/
def elementUnit (quote : Char) : List Char → Nat
  | '&' :: c :: _ => if c == '#' || isLetter c then 0 else 2
  | '&' :: [] => 0
  | c :: _ => if c == quote then 0 else 1
  | [] => 0

def elementNameLength (s : List Char) : Option Nat :=
  let plain := fun c => isLetter c || isDigit c || c == '_' || c == '$'
  match s with
  | c :: _ =>
    if plain c && !isDigit c then
      let head := spanLength plain s
      match s.drop head with
      | '-' :: r => some (head + 1 + spanLength (fun c => plain c || c == '-') r)
      | _ => none
    else none
  | [] => none

def characterReferenceLength : List Char → Option Nat
  | '&' :: r =>
    let digits := fun (lead : Nat) (p : Char → Bool) (most : Nat) (s : List Char) =>
      let n := spanLength p s
      if n != 0 && n ≤ most && (s.drop n).head? == some ';' then some (1 + lead + n + 1) else none
    match r with
    | '#' :: 'x' :: s => digits 2 isHexDigit 6 s
    | '#' :: 'X' :: s => digits 2 isHexDigit 6 s
    | '#' :: s => digits 1 isDigit 5 s
    | s => digits 0 isLetter 30 s
  | _ => none

/-- The length of the words for a static getter whose name is on a later line. -/
def staticGetterLength (s : List Char) : Option Nat := do
  let r ← after? "static".toList s
  let blanks ← nonZero (spanLength isPlainSpace r)
  let t ← after? "get".toList (r.drop blanks)
  let tail := t.take (spanLength isPlainSpace t)
  let upToBreak := (tail.reverse.dropWhile (· != '\n')).length
  if upToBreak == 0 then none else some (6 + blanks + 3 + upToBreak)

namespace Form

/-- How much of a text a form matches. -/
def length? (form : Form) (s : List Char) : Option Nat :=
  match form with
  | finish => if s.isEmpty then some 0 else none
  | fixed text => if (after? text.toList s).isSome then some text.length else none
  | identifier => nonZero (nameLength s)
  | privateName =>
    match s with
    | '#' :: r => (nonZero (nameLength r)).map (· + 1)
    | _ => none
  | number => nonZero (numberLength s)
  | hashBang =>
    match s with
    | '#' :: '!' :: r => some (2 + spanLength (· != '\n') r)
    | _ => none
  | comment => commentLength s
  | doubleFragment => nonZero (spanLength (fun c => !("\"\\\r\n".toList.contains c)) s)
  | singleFragment => nonZero (spanLength (fun c => !("'\\\r\n".toList.contains c)) s)
  | doubleElementFragment => nonZero (runLength (elementUnit '"') 0 s)
  | singleElementFragment => nonZero (runLength (elementUnit '\'') 0 s)
  | escape => escapeLength s
  | regexPattern => nonZero (runLength patternUnit 0 s)
  | regexClose => if s.head? == some '/' then some 1 else none
  | regexFlags => nonZero (spanLength isLowerLetter s)
  | elementName => elementNameLength s
  | characterReference => characterReferenceLength s
  | staticGetter => staticGetterLength s
  | layout => none

/-- Forms that must follow the token before without anything between. -/
def isImmediate : Form → Bool
  | doubleFragment | singleFragment | doubleElementFragment | singleElementFragment | escape
  | regexPattern | regexClose | regexFlags => true
  | _ => false

/-- The rank of a form; a higher one wins over a longer match. -/
def rank : Form → Int
  | doubleFragment | singleFragment | doubleElementFragment | singleElementFragment
  | regexClose => 1
  | regexPattern => -1
  | _ => 0

/-- How definite a form is. -/
def definiteness : Form → Nat
  | fixed _ => 2
  | regexClose => 3
  | form => if form.isImmediate then 1 else 0

/-- Forms that are never looked for where nothing is expected: they match nearly everything. -/
def isContextual : Form → Bool
  | doubleFragment | singleFragment | doubleElementFragment | singleElementFragment
  | regexPattern | regexClose | regexFlags | elementName | characterReference | layout => true
  | _ => false

end Form

/-- A match: the number of its token, its form, and where it begins and ends. -/
structure Match where
  token : Nat
  form : Form
  start : Nat
  stop : Nat

/-- Whether the first of two matches wins; the other one has a higher number. -/
def Match.wins (a b : Match) : Bool :=
  if a.form.rank != b.form.rank then b.form.rank < a.form.rank
  else if a.stop != b.stop then b.stop < a.stop
  else b.form.definiteness ≤ a.form.definiteness

/-- The winner among matches in the order of their numbers. -/
def best : List Match → Option Match
  | [] => none
  | m :: more =>
    match best more with
    | none => some m
    | some other => if m.wins other then some m else some other

end SiteAudit.Script
