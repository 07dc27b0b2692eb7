import SiteAudit.Text.Printable
/-!
# Quoted text

A text is quoted so that every character can be seen.  Single quotes go around it, unless it holds
a single quote and no double one.  The quote used, the backslash and three frequent controls get
short escapes; other characters that do not print are given by their number in hexadecimal.
-/
namespace SiteAudit.Text.Quoted

/-- The number `n` in `width` hexadecimal digits. -/
def hex (width n : Nat) : List Char :=
  let digits := Nat.toDigits 16 n
  List.replicate (width - digits.length) '0' ++ digits

/-- One character between quotes `quote`. -/
def escape (quote c : Char) : List Char :=
  let n := c.toNat
  if c = quote || c = '\\' then ['\\', c]
  else if c = '\n' then ['\\', 'n']
  else if c = '\r' then ['\\', 'r']
  else if c = '\t' then ['\\', 't']
  else if isPrintable c then [c]
  else if n < 0x100 then '\\' :: 'x' :: hex 2 n
  else if n < 0x10000 then '\\' :: 'u' :: hex 4 n
  else '\\' :: 'U' :: hex 8 n

/-- The quote to use around a text. -/
def quoteFor (s : List Char) : Char :=
  if s.contains '\'' && !s.contains '"' then '"' else '\''

def quote (s : List Char) : List Char :=
  let q := quoteFor s
  q :: s.flatMap (escape q) ++ [q]

def quoteString (s : String) : String := String.ofList (quote s.toList)

end SiteAudit.Text.Quoted
