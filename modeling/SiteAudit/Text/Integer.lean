import SiteAudit.Text.Blank
import SiteAudit.Text.WordChar
/-!
# Integers in text

An integer may have blanks around it, one sign, and single underscores between its digits.  The
digits may be those of any script, and there may not be too many of them.
-/
namespace SiteAudit.Text

/-- The value of digits with single underscores between them; `value` is what was read so far and
`afterDigit` whether the last character was a digit. -/
def digitsFrom (value : Nat) (afterDigit : Bool) : List Char → Option Nat
  | [] => if afterDigit then some value else none
  | c :: r =>
    if c = '_' then if afterDigit then digitsFrom value false r else none
    else match digitValue? c with
      | some d => digitsFrom (10 * value + d) true r
      | none => none

/-- The value of a text that is an integer, however long. -/
def readInteger? (s : List Char) : Option Int :=
  match trim s with
  | '-' :: r => (digitsFrom 0 false r).map (fun n => -(n : Int))
  | '+' :: r => (digitsFrom 0 false r).map (fun n => (n : Int))
  | r => (digitsFrom 0 false r).map (fun n => (n : Int))

/-- The most digits that a text may have to be read as an integer. -/
def maxDigits : Nat := 4300

/-- What is said of a text with more digits. -/
def tooManyDigits (count : Nat) : String :=
  "Exceeds the limit (" ++ toString maxDigits ++ " digits) for integer string conversion: value has " ++
    toString count ++ " digits; use sys.set_int_max_str_digits() to increase the limit"

/-- The value of a text that is an integer with no more digits than that. -/
def integer? (s : List Char) : Option Int :=
  if maxDigits < s.countP isDecimal then none else readInteger? s

end SiteAudit.Text
