/-!
# Blanks, trimming and lines

Texts are lists of characters.  A *blank* is any character that Unicode counts as white space,
the four separator controls `U+001C`–`U+001F` included.  From it come trimming, the words of a
text, and two ways to cut a text into lines: at line feeds only, and at every line boundary.

* `trim`, `trimStart`, `trimEnd` remove blanks at the ends.
* `words` are the maximal runs of characters that are no blanks.
* `splitOn` cuts at every occurrence of one character and keeps empty pieces.
* `boundaryLines` cuts at every line boundary; a final boundary opens no further line.
-/
namespace SiteAudit.Text

/-- White space, as Unicode and the bidirectional separators define it. -/
def isBlank (c : Char) : Bool :=
  let n := c.toNat
  (0x09 ≤ n && n ≤ 0x0D) || (0x1C ≤ n && n ≤ 0x20) || n == 0x85 || n == 0xA0 || n == 0x1680 ||
    (0x2000 ≤ n && n ≤ 0x200A) || n == 0x2028 || n == 0x2029 || n == 0x202F || n == 0x205F ||
    n == 0x3000

/-! ## Trimming -/

def trimStartBy (p : Char → Bool) (s : List Char) : List Char := s.dropWhile p

/-- Removes from the end the characters that satisfy `p`. -/
def trimEndBy (p : Char → Bool) (s : List Char) : List Char := (s.reverse.dropWhile p).reverse

def trimBy (p : Char → Bool) (s : List Char) : List Char := trimEndBy p (trimStartBy p s)

def trimStart (s : List Char) : List Char := trimStartBy isBlank s

def trimEnd (s : List Char) : List Char := trimEndBy isBlank s

def trim (s : List Char) : List Char := trimEnd (trimStart s)

/-! ## Cutting -/

/-- The pieces between the occurrences of `sep`; a text without one is a single piece. -/
def splitOn (sep : Char) : List Char → List (List Char)
  | [] => [[]]
  | c :: r =>
    if c = sep then [] :: splitOn sep r
    else match splitOn sep r with
      | [] => [[c]]
      | piece :: more => (c :: piece) :: more

/-- The text up to the first occurrence of `sep`, or all of it. -/
def upTo (sep : Char) (s : List Char) : List Char := s.takeWhile (· != sep)

/-- Reads the words of a text: `word` holds the current run, last character first. -/
def wordsFrom : List Char → List Char → List (List Char)
  | [], [] => []
  | word, [] => [word.reverse]
  | word, c :: r =>
    if isBlank c then
      if word.isEmpty then wordsFrom [] r else word.reverse :: wordsFrom [] r
    else wordsFrom (c :: word) r

/-- The maximal runs of characters that are no blanks, in order. -/
def words (s : List Char) : List (List Char) := wordsFrom [] s

/-- The characters at which a line may end, besides the carriage return. -/
def isBoundary (c : Char) : Bool :=
  let n := c.toNat
  (0x0A ≤ n && n ≤ 0x0C) || (0x1C ≤ n && n ≤ 0x1E) || n == 0x85 || n == 0x2028 || n == 0x2029

/-- Cuts a text at its line boundaries: `line` holds the current line, last character first. -/
def boundaryLinesFrom : List Char → List Char → List (List Char)
  | [], [] => []
  | line, [] => [line.reverse]
  | line, '\r' :: '\n' :: r => line.reverse :: boundaryLinesFrom [] r
  | line, c :: r =>
    if c = '\r' || isBoundary c then line.reverse :: boundaryLinesFrom [] r
    else boundaryLinesFrom (c :: line) r

/-- The lines of a text, where every line boundary ends one and the last may be unended. -/
def boundaryLines (s : List Char) : List (List Char) := boundaryLinesFrom [] s

/-- Line ends in their short form: a carriage return, alone or before a line feed, is one line
feed. -/
def unifyNewlines : List Char → List Char
  | [] => []
  | '\r' :: '\n' :: r => '\n' :: unifyNewlines r
  | c :: r => (if c = '\r' then '\n' else c) :: unifyNewlines r

/-- How many line feeds a text holds. -/
def newlines (s : List Char) : Nat := s.count '\n'

/-- The rest of `s` after the text `lead`, when `s` begins with it. -/
def after? : List Char → List Char → Option (List Char)
  | [], s => some s
  | _ :: _, [] => none
  | c :: lead, d :: s => if c = d then after? lead s else none

def startsWith (lead s : List Char) : Bool := (after? lead s).isSome

def endsWith (tail s : List Char) : Bool := startsWith tail.reverse s.reverse

end SiteAudit.Text
