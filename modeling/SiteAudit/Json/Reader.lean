import SiteAudit.Json.Value
import SiteAudit.Text.Blank
import SiteAudit.Text.Integer
/-!
# Reading JSON

A text is read from the front; a fault carries the offset of the character that does not fit.
Beyond the standard the words for infinity and for no number are admitted.  An escape that is half
of a pair without the other half is kept as it is.

* `Value.ofText` reads a whole text.
* `Fault.decode` is a text that is no JSON; `Fault.tooLong` a number with too many digits.
-/
namespace SiteAudit.Json

open Text

inductive Problem where
  | value
  | propertyName
  | colon
  | comma
  | unterminatedString
  | controlCharacter
  | badEscape
  | badUnicodeEscape
  | extraData
  deriving DecidableEq, Repr

def Problem.message : Problem → String
  | value => "Expecting value"
  | propertyName => "Expecting property name enclosed in double quotes"
  | colon => "Expecting ':' delimiter"
  | comma => "Expecting ',' delimiter"
  | unterminatedString => "Unterminated string starting at"
  | controlCharacter => "Invalid control character at"
  | badEscape => "Invalid \\escape"
  | badUnicodeEscape => "Invalid \\uXXXX escape"
  | extraData => "Extra data"

inductive Fault where
  | decode (problem : Problem) (position : Nat)
  | tooLong
  deriving DecidableEq, Repr

/-- What is left of a text, and the offset at which it begins. -/
structure Rest where
  position : Nat
  chars : List Char

namespace Rest

def drop (r : Rest) (n : Nat) : Rest := ⟨r.position + n, r.chars.drop n⟩

def isSpace (c : Char) : Bool := c == ' ' || c == '\t' || c == '\n' || c == '\r'

def skip (r : Rest) : Rest := r.drop (r.chars.takeWhile isSpace).length

def fail {α : Type} (r : Rest) (problem : Problem) : Except Fault α :=
  .error (.decode problem r.position)

end Rest

/-! ## Strings -/

def hexDigit? (c : Char) : Option Nat :=
  if '0' ≤ c && c ≤ '9' then some (c.toNat - 48)
  else if 'a' ≤ c && c ≤ 'f' then some (c.toNat - 87)
  else if 'A' ≤ c && c ≤ 'F' then some (c.toNat - 55)
  else none

/-- The value of four hexadecimal digits in front of more text. -/
def unit? : List Char → Option Nat
  | a :: b :: c :: d :: _ :: _ => do
    let a ← hexDigit? a
    let b ← hexDigit? b
    let c ← hexDigit? c
    let d ← hexDigit? d
    return ((a * 16 + b) * 16 + c) * 16 + d
  | _ => none

def isHigh (n : Nat) : Bool := 0xD800 ≤ n && n < 0xDC00

def isLow (n : Nat) : Bool := 0xDC00 ≤ n && n < 0xE000

def shortEscape? : Char → Option Nat
  | '"' => some 34
  | '\\' => some 92
  | '/' => some 47
  | 'b' => some 8
  | 'f' => some 12
  | 'n' => some 10
  | 'r' => some 13
  | 't' => some 9
  | _ => none

/-- The code point that a high half makes with the low one behind it, if that is written as a second
escape with more text behind it. -/
def joined? (high : Nat) (s : List Char) : Except Unit (Option Nat) :=
  match s with
  | '\\' :: 'u' :: r =>
    if r.length < 5 then .ok none
    else match unit? r with
      | none => .error ()
      | some low =>
        if isLow low then
          .ok (some (0x10000 + (high - 0xD800) * 0x400 + (low - 0xDC00)))
        else .ok none
  | _ => .ok none

/-- Reads a string up to its closing quote.  `start` is the offset of the opening quote and `found`
holds the code points so far, last first. -/
def stringFrom (start : Nat) (found : List Nat) : Nat → Rest → Except Fault (Str × Rest)
  | 0, _ => .error (.decode .unterminatedString start)
  | k + 1, r =>
    match r.chars with
    | [] => .error (.decode .unterminatedString start)
    | '"' :: _ => .ok (.ofPoints found.reverse, r.drop 1)
    | ['\\'] => .error (.decode .unterminatedString start)
    | '\\' :: 'u' :: more =>
      match unit? more with
      | none => (r.drop 1).fail .badUnicodeEscape
      | some n =>
        if isHigh n then
          match joined? n (more.drop 4) with
          | .error () => (r.drop 7).fail .badUnicodeEscape
          | .ok (some m) => stringFrom start (m :: found) k (r.drop 12)
          | .ok none => stringFrom start (n :: found) k (r.drop 6)
        else stringFrom start (n :: found) k (r.drop 6)
    | '\\' :: c :: _ =>
      match shortEscape? c with
      | some n => stringFrom start (n :: found) k (r.drop 2)
      | none => r.fail .badEscape
    | c :: _ =>
      if c.toNat < 0x20 then r.fail .controlCharacter
      else stringFrom start (c.toNat :: found) k (r.drop 1)

def readString (r : Rest) : Except Fault (Str × Rest) :=
  stringFrom r.position [] (r.chars.length + 1) (r.drop 1)

/-! ## Numbers -/

def isDigit (c : Char) : Bool := '0' ≤ c && c ≤ '9'

/-- The length of a fraction in front: a point and at least one digit. -/
def fractionLength : List Char → Nat
  | '.' :: r =>
    let n := (r.takeWhile isDigit).length
    if n = 0 then 0 else n + 1
  | _ => 0

/-- The length of an exponent in front. -/
def exponentLength : List Char → Nat
  | e :: r =>
    if e == 'e' || e == 'E' then
      let sign := match r with
        | '+' :: _ => 1
        | '-' :: _ => 1
        | _ => 0
      let n := ((r.drop sign).takeWhile isDigit).length
      if n = 0 then 0 else 1 + sign + n
    else 0
  | [] => 0

def digitsValue (s : List Char) : Nat := s.foldl (fun n c => 10 * n + (c.toNat - 48)) 0

def readNumber (r : Rest) : Except Fault (Value × Rest) :=
  let (negative, body) := match r.chars with
    | '-' :: b => (true, b)
    | b => (false, b)
  let whole := match body with
    | '0' :: _ => ['0']
    | b => b.takeWhile isDigit
  if whole.isEmpty then r.fail .value
  else
    let behind := body.drop whole.length
    let fraction := behind.take (fractionLength behind)
    let afterFraction := behind.drop fraction.length
    let exponent := afterFraction.take (exponentLength afterFraction)
    let length := (if negative then 1 else 0) + whole.length + fraction.length + exponent.length
    if fraction.isEmpty && exponent.isEmpty then
      if maxDigits < whole.length then .error .tooLong
      else
        let n : Int := digitsValue whole
        .ok (.int (if negative then -n else n), r.drop length)
    else
      let places := fraction.drop 1
      let power := (readInteger? (exponent.drop 1)).getD 0
      let x := Decimal.nearest (digitsValue (whole ++ places)) (power - places.length)
      .ok (.float (if negative then -x else x), r.drop length)

/-! ## Values -/

def wordValues : List (String × Value) :=
  [("null", .null), ("true", .bool true), ("false", .bool false), ("NaN", .float (0.0 / 0.0)),
   ("Infinity", .float (1.0 / 0.0)), ("-Infinity", .float (-(1.0 / 0.0)))]

/-- Puts a member into an object; a key that is there keeps its place. -/
def putMember (key : Str) (v : Value) : List (Str × Value) → List (Str × Value)
  | [] => [(key, v)]
  | (k, old) :: more => if k = key then (k, v) :: more else (k, old) :: putMember key v more

mutual

def readValue : Nat → Rest → Except Fault (Value × Rest)
  | 0, r => r.fail .value
  | k + 1, r =>
    match r.chars with
    | '"' :: _ => (readString r).map (fun (s, rest) => (.string s, rest))
    | '\x7b' :: _ =>
      let r := (r.drop 1).skip
      match r.chars with
      | '\x7d' :: _ => .ok (.object [], r.drop 1)
      | _ => readMembers [] k r
    | '[' :: _ =>
      let r := (r.drop 1).skip
      match r.chars with
      | ']' :: _ => .ok (.array [], r.drop 1)
      | _ => readItems [] k r
    | chars =>
      match wordValues.find? (fun (word, _) => startsWith word.toList chars) with
      | some (word, v) => .ok (v, r.drop word.length)
      | none => readNumber r

/-- Reads the items of an array from an item on; `found` holds those before. -/
def readItems (found : List Value) : Nat → Rest → Except Fault (Value × Rest)
  | 0, r => r.fail .value
  | k + 1, r => do
    let (v, rest) ← readValue k r
    let rest := rest.skip
    match rest.chars with
    | ']' :: _ => return (.array (found ++ [v]), rest.drop 1)
    | ',' :: _ => readItems (found ++ [v]) k (rest.drop 1).skip
    | _ => rest.fail .comma

/-- Reads the members of an object from a key on; `found` holds those before. -/
def readMembers (found : List (Str × Value)) : Nat → Rest → Except Fault (Value × Rest)
  | 0, r => r.fail .propertyName
  | k + 1, r => do
    match r.chars with
    | '"' :: _ => pure ()
    | _ => r.fail .propertyName
    let (key, rest) ← readString r
    let rest := rest.skip
    match rest.chars with
    | ':' :: _ => pure ()
    | _ => rest.fail .colon
    let (v, rest) ← readValue k (rest.drop 1).skip
    let rest := rest.skip
    let found := putMember key v found
    match rest.chars with
    | '\x7d' :: _ => return (.object found, rest.drop 1)
    | ',' :: _ => readMembers found k (rest.drop 1).skip
    | _ => rest.fail .comma

end

def Value.ofText (text : List Char) : Except Fault Value := do
  let (v, rest) ← readValue (text.length + 2) (Rest.skip ⟨0, text⟩)
  let rest := rest.skip
  match rest.chars with
  | [] => return v
  | _ => rest.fail .extraData

end SiteAudit.Json
