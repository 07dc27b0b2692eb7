import SiteAudit.Script.Token
/-!
# Tokens that the layout shows

Some tokens cannot be told from their own text: a semicolon that was left out, the text of a
template or of an element, a question mark that is no chain, and comments in the style of markup.  Which of
them are looked for depends on what the grammar allows.

* `Wanted` says what the grammar allows.
* `scan` finds such a token at the front of a text.
-/
namespace SiteAudit.Script.Layout

/-- The tokens that the layout shows. -/
inductive Kind where
  | semicolon
  | templateText
  | questionMark
  | markupComment
  | elementText
  deriving DecidableEq, Repr

/-- What the grammar allows.  The last three are no tokens of the layout, but they tell what kind of
place this is. -/
structure Wanted where
  semicolon : Bool
  templateText : Bool
  questionMark : Bool
  markupComment : Bool
  elementText : Bool
  logicalOr : Bool
  escape : Bool
  pattern : Bool

/-- A token found: where it begins and ends, counted from the front. -/
structure Found where
  kind : Kind
  start : Nat
  stop : Nat

def isLineEnd (c : Char) : Bool := c == '\n' || c.toNat == 0x2028 || c.toNat == 0x2029

def isBlank (c : Char) : Bool :=
  let n := c.toNat
  isPlainSpace c || n == 0x1680 || (0x2000 ≤ n && n ≤ 0x2006) || (0x2008 ≤ n && n ≤ 0x200A) ||
    n == 0x2028 || n == 0x2029 || n == 0x205F || n == 0x3000

/-! ## Templates and elements -/

/-- The length of the text of a template: up to its end, an escape or a substitution. -/
def templateText (length : Nat) : List Char → Option Nat
  | [] => none
  | '`' :: _ => nonZero length
  | '\\' :: _ => nonZero length
  | '$' :: '\x7b' :: _ => nonZero length
  | _ :: r => templateText (length + 1) r

/-- The length of the text of an element, and whether it has more than line ends with blanks behind
them. -/
def elementText (length : Nat) (atLineEnd sawText : Bool) : List Char → Nat × Bool
  | [] => (length, sawText)
  | c :: r =>
    if c == '<' || c == '>' || c == '\x7b' || c == '\x7d' || c == '&' then (length, sawText)
    else if c == '\n' then elementText (length + 1) true sawText r
    else
      let atLineEnd := atLineEnd && isBlank c
      elementText (length + 1) atLineEnd (sawText || !atLineEnd) r

/-! ## Semicolons -/

/-- What blanks and comments say about a semicolon. -/
inductive Verdict where
  | reject
  | noLineEnd
  | accept
  deriving DecidableEq

/-- The text behind a line comment. -/
def behindLine : List Char → List Char
  | [] => []
  | c :: r => if isLineEnd c then c :: r else behindLine r

/-- The text behind a block comment, whether it was closed, and whether it held a line end. -/
def behindBlock (lineEnd : Bool) : List Char → List Char × Bool × Bool
  | [] => ([], false, lineEnd)
  | '*' :: '/' :: r => (r, true, lineEnd)
  | c :: r => behindBlock (lineEnd || isLineEnd c) r

/-- Passes over blanks and comments.  Without `consume` it stops behind the first block comment that
no comment follows.  Gives the verdict, the text behind, and whether a comment was closed. -/
def passBlanks (consume : Bool) : Nat → Bool → Bool → List Char → Verdict × List Char × Bool
  | 0, _, comment, s => (.accept, s, comment)
  | k + 1, lineEnd, comment, s =>
    match s.dropWhile isBlank with
    | '/' :: '/' :: r => passBlanks consume k lineEnd true (behindLine r)
    | '/' :: '*' :: r =>
      let (rest, closed, inner) := behindBlock lineEnd r
      if closed && rest.head? != some '/' && !consume then
        (if inner then .accept else .noLineEnd, rest, true)
      else passBlanks consume k inner (comment || closed) rest
    | '/' :: r => (.reject, r, comment)
    | rest => (.accept, rest, comment)

/-- Whether a word that begins with `i` forbids a semicolon before it: it is one of the two
operators. -/
def isInOperator (s : List Char) : Bool :=
  match s with
  | 'i' :: 'n' :: r =>
    match r with
    | c :: _ =>
      if !isLetter c then true
      else match Text.after? "stanceof".toList r with
        | some (d :: _) => !isLetter d
        | some [] => true
        | none => false
    | [] => true
  | _ => false

/-- Whether a semicolon may stand before the first token of a line. -/
def mayEndBefore (s : List Char) : Bool :=
  match s with
  | [] => true
  | '.' :: r => (r.head?.map isDigit).getD false
  | '+' :: r => r.head? == some '+'
  | '-' :: r => r.head? == some '-'
  | '!' :: r => r.head? != some '='
  | 'i' :: _ => !isInOperator s
  | c :: _ => !("`,:;*%><=[(?^|&/".toList.contains c)

/-- What looking for a semicolon comes to: whether there is one, the text where the search ended,
and whether a comment was passed. -/
structure Search where
  found : Bool
  rest : List Char
  comment : Bool

/-- Looks for a semicolon that was left out: at the end of the text, before a closing brace, and at
a line end where the next token could not go on.  `commentEnds` tells whether a comment alone may end
the statement. -/
def searchSemicolon (commentEnds : Bool) : Nat → Bool → List Char → Search
  | 0, comment, s => ⟨false, s, comment⟩
  | k + 1, comment, s =>
    let onLine (comment : Bool) (s : List Char) : Search :=
      match s with
      | [] => ⟨true, s, comment⟩
      | '\x7d' :: _ => ⟨true, s, comment⟩
      | c :: r =>
        if isLineEnd c then
          let (verdict, rest, comment) := passBlanks true (r.length + 1) false comment r
          if verdict == .reject then ⟨false, rest, comment⟩ else ⟨mayEndBefore rest, rest, comment⟩
        else if isBlank c then searchSemicolon commentEnds k comment r
        else ⟨false, s, comment⟩
    match s with
    | [] => ⟨true, s, comment⟩
    | '/' :: _ =>
      let (verdict, rest, comment) := passBlanks false (s.length + 1) false comment s
      if verdict == .reject then ⟨false, rest, comment⟩
      else if verdict == .accept && commentEnds && rest.head? != some ',' && rest.head? != some '='
      then ⟨true, rest, comment⟩
      else onLine comment rest
    | _ => onLine comment s

/-- A question mark that is neither doubled nor a chain; `start` is where it stands. -/
def questionMark? (start : Nat) (s : List Char) : Option Found :=
  match s with
  | '?' :: '?' :: _ => none
  | '?' :: '.' :: r =>
    if (r.head?.map isDigit).getD false then some ⟨.questionMark, start, start + 1⟩ else none
  | '?' :: _ => some ⟨.questionMark, start, start + 1⟩
  | _ => none

/-- A comment in the style of markup: from its opening or closing mark to the end of the line. -/
def markupComment? (start : Nat) (s : List Char) : Option Found :=
  if (Text.after? "<!--".toList s).isSome || (Text.after? "-->".toList s).isSome then
    some ⟨.markupComment, start, start + spanLength (fun c => !isLineEnd c) s⟩
  else none

/-- Finds a token that the layout shows. -/
def scan (wanted : Wanted) (s : List Char) : Option Found :=
  if wanted.templateText then
    if wanted.semicolon then none
    else (templateText 0 s).map (fun n => ⟨.templateText, 0, n⟩)
  else
    let (length, sawText) := if wanted.elementText then elementText 0 false false s else (0, false)
    if sawText then some ⟨.elementText, 0, length⟩
    else
      let behindText := s.drop length
      let skipped (rest : List Char) : Nat := s.length - rest.length
      if wanted.semicolon then
        let search := searchSemicolon (!wanted.logicalOr) (behindText.length + 1) false behindText
        if search.found then some ⟨.semicolon, length, length⟩
        else if !search.comment && wanted.questionMark && search.rest.head? == some '?' then
          questionMark? (skipped search.rest) search.rest
        else none
      else if wanted.questionMark then
        let rest := behindText.dropWhile isBlank
        questionMark? (skipped rest) rest
      else if wanted.markupComment && !wanted.logicalOr && !wanted.escape && !wanted.pattern then
        let rest := behindText.dropWhile isBlank
        markupComment? (skipped rest) rest
      else none

end SiteAudit.Script.Layout
