import SiteAudit.Tag.ReferenceName
import SiteAudit.Text.Integer
/-!
# Character references

Text and attribute values may write a character by its number or by a name.  A reference that is
not understood stays as it is written; a name that is not in the list is tried without its last
characters.

* `ofNumber` gives the character of a number: the numbers of an old code page are moved to where
  their characters are now, and numbers that name no character give the replacement character or
  nothing.
* `decode` replaces all references of a text, from left to right, once.
-/
namespace SiteAudit.Tag

/-- Why a document cannot be read on. -/
inductive LexFault where
  /-- A marked section that does not begin with a name; `at` is the text there. -/
  | expectedName (text : List Char)
  /-- A marked section with an unknown keyword. -/
  | unknownKeyword (keyword : List Char)
  /-- A decimal number with more digits than can be read. -/
  | tooManyDigits (count : Nat)
  deriving DecidableEq, Repr

def hexValue (s : List Char) : Nat :=
  s.foldl (fun n c =>
    16 * n + (if '0' ≤ c && c ≤ '9' then c.toNat - 48
      else if 'a' ≤ c && c ≤ 'f' then c.toNat - 87
      else c.toNat - 55)) 0

namespace CharacterReference

/-- Where the characters of the code page at `0x80`–`0x9F` are now. -/
def codePage : List Nat :=
  [0x20AC, 0x81, 0x201A, 0x192, 0x201E, 0x2026, 0x2020, 0x2021, 0x2C6, 0x2030, 0x160, 0x2039,
   0x152, 0x8D, 0x17D, 0x8F, 0x90, 0x2018, 0x2019, 0x201C, 0x201D, 0x2022, 0x2013, 0x2014, 0x2DC,
   0x2122, 0x161, 0x203A, 0x153, 0x9D, 0x17E, 0x178]

/-- Numbers that name no character of a document: most controls and the noncharacters. -/
def isNoCharacter (n : Nat) : Bool :=
  (1 ≤ n && n ≤ 8) || n == 0xB || (0xE ≤ n && n ≤ 0x1F) || n == 0x7F ||
    (0xFDD0 ≤ n && n ≤ 0xFDEF) || 0xFFFE ≤ n % 0x10000

/-- The text that a numeric reference stands for. -/
def ofNumber (n : Nat) : List Char :=
  if n = 0 then [Char.ofNat 0xFFFD]
  else if 0x80 ≤ n && n ≤ 0x9F then [Char.ofNat (codePage.getD (n - 0x80) 0)]
  else if (0xD800 ≤ n && n ≤ 0xDFFF) || 0x10FFFF < n then [Char.ofNat 0xFFFD]
  else if isNoCharacter n then []
  else [Char.ofNat n]

def isDigit (c : Char) : Bool := '0' ≤ c && c ≤ '9'

def isHexDigit (c : Char) : Bool := isDigit c || ('a' ≤ c && c ≤ 'f') || ('A' ≤ c && c ≤ 'F')

def decimalValue (s : List Char) : Nat := s.foldl (fun n c => 10 * n + (c.toNat - 48)) 0

/-- Characters that may belong to a name. -/
def isNameChar (c : Char) : Bool :=
  !(c == '\t' || c == '\n' || c == '\x0c' || c == ' ' || c == '<' || c == '&' || c == '#' ||
    c == ';')

/-- The longest name that is looked up, without its semicolon. -/
def maxName : Nat := 32

/-- Tries the starts of a name, the longest first, down to two characters. -/
def shortened? (name : List Char) : Nat → Option (List Char)
  | 0 => none
  | 1 => none
  | k + 2 =>
    match reference? (name.take (k + 2)) with
    | some chars => some (chars ++ name.drop (k + 2))
    | none => shortened? name (k + 1)

/-- What a name after an ampersand stands for. -/
def ofName (name : List Char) : List Char :=
  match reference? name with
  | some chars => chars
  | none => (shortened? name (name.length - 1)).getD ('&' :: name)

/-- Takes an optional semicolon off the front. -/
def dropSemicolon : List Char → List Char
  | ';' :: r => r
  | r => r

/-- Reads what follows an ampersand: the text it stands for and the rest, or nothing where no
reference is written. -/
def read? (s : List Char) : Except LexFault (Option (List Char × List Char)) :=
  match s with
  | '#' :: r =>
    let digits := r.takeWhile isDigit
    if !digits.isEmpty then
      if Text.maxDigits < digits.length then .error (.tooManyDigits digits.length)
      else .ok (some (ofNumber (decimalValue digits), dropSemicolon (r.dropWhile isDigit)))
    else match r with
      | x :: h =>
        let digits := h.takeWhile isHexDigit
        if (x == 'x' || x == 'X') && !digits.isEmpty then
          .ok (some (ofNumber (hexValue digits), dropSemicolon (h.dropWhile isHexDigit)))
        else .ok none
      | [] => .ok none
  | _ =>
    let name := (s.take maxName).takeWhile isNameChar
    if name.isEmpty then .ok none
    else match s.drop name.length with
      | ';' :: rest => .ok (some (ofName (name ++ [';']), rest))
      | rest => .ok (some (ofName name, rest))

/-- Decodes with as many steps as there are characters. -/
def decodeSteps : Nat → List Char → Except LexFault (List Char)
  | 0, s => .ok s
  | _ + 1, [] => .ok []
  | k + 1, c :: r =>
    if c = '&' then
      match read? r with
      | .error e => .error e
      | .ok (some (chars, rest)) => (decodeSteps k rest).map (chars ++ ·)
      | .ok none => (decodeSteps k r).map ('&' :: ·)
    else (decodeSteps k r).map (c :: ·)

/-- The text with its character references replaced. -/
def decode (s : List Char) : Except LexFault (List Char) := decodeSteps s.length s

end CharacterReference

end SiteAudit.Tag
