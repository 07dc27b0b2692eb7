import SiteAudit.Decimal.Shortest
import SiteAudit.Text.Integer
import SiteAudit.Text.LowerCase
import SiteAudit.Text.Quoted
import SiteAudit.Yaml.Mark
/-!
# Scalars

A scalar without a tag gets one from its text: numbers, truth values, points in time and a few
special texts are known by their form, and everything else is text.

* `resolvedTag` finds the tag of a plain text.
* `intValue`, `floatValue`, `truthValue`, `checkTimestamp`, `binaryValue` read the text of a
  scalar with the given tag.
-/
namespace SiteAudit.Yaml

namespace Tag

/-- The tags of the standard kinds share their beginning. -/
def standard (name : String) : String := "tag:yaml.org,2002:" ++ name

def null := standard "null"
def bool := standard "bool"
def int := standard "int"
def float := standard "float"
def binary := standard "binary"
def timestamp := standard "timestamp"
def omap := standard "omap"
def pairs := standard "pairs"
def set := standard "set"
def str := standard "str"
def seq := standard "seq"
def map := standard "map"
def merge := standard "merge"
def value := standard "value"

end Tag

/-! ## Forms -/

def isDigit (c : Char) : Bool := '0' ≤ c && c ≤ '9'

def isDigitOrLine (c : Char) : Bool := isDigit c || c == '_'

/-- Takes an optional sign off the front. -/
def dropSign : List Char → List Char
  | '-' :: r => r
  | '+' :: r => r
  | s => s

/-- Parts behind colons, as in hours and minutes: each at most 59.  At least one. -/
def sixtieths? (s : List Char) : Option (List Char) :=
  match s with
  | ':' :: a :: b :: r =>
    if isDigit a && a ≤ '5' && isDigit b then some ((sixtieths? r).getD r)
    else if isDigit a then some ((sixtieths? (b :: r)).getD (b :: r))
    else none
  | [':', a] => if isDigit a then some [] else none
  | _ => none

/-- An exponent with its sign; nothing is fine too. -/
def isExponent (s : List Char) : Bool :=
  match s with
  | [] => true
  | e :: sign :: r =>
    (e == 'e' || e == 'E') && (sign == '-' || sign == '+') && !r.isEmpty && r.all isDigit
  | _ => false

def isIntForm (s : List Char) : Bool :=
  match dropSign s with
  | '0' :: 'b' :: r => !r.isEmpty && r.all (fun c => c == '0' || c == '1' || c == '_')
  | '0' :: 'x' :: r =>
    !r.isEmpty && r.all (fun c =>
      isDigitOrLine c || ('a' ≤ c && c ≤ 'f') || ('A' ≤ c && c ≤ 'F'))
  | '0' :: r => r.all (fun c => ('0' ≤ c && c ≤ '7') || c == '_')
  | c :: r =>
    let rest := r.dropWhile isDigitOrLine
    isDigit c && (rest.isEmpty || sixtieths? rest == some [])
  | [] => false

def isFloatForm (s : List Char) : Bool :=
  let unsigned := dropSign s
  let signless := unsigned.length == s.length
  match unsigned with
  | '.' :: r =>
    [['i', 'n', 'f'], ['I', 'n', 'f'], ['I', 'N', 'F']].contains r ||
      (signless && [['n', 'a', 'n'], ['N', 'a', 'N'], ['N', 'A', 'N']].contains r) ||
      (signless && (r.head?.any isDigit) && isExponent (r.dropWhile isDigitOrLine))
  | c :: r =>
    let rest := r.dropWhile isDigitOrLine
    isDigit c && match rest with
      | '.' :: fraction => isExponent (fraction.dropWhile isDigitOrLine)
      | _ => match sixtieths? rest with
        | some ('.' :: fraction) => fraction.all isDigitOrLine
        | _ => false
  | [] => false

def boolWords : List String :=
  ["yes", "Yes", "YES", "no", "No", "NO", "true", "True", "TRUE", "false", "False", "FALSE", "on",
   "On", "ON", "off", "Off", "OFF"]

def nullWords : List String := ["~", "null", "Null", "NULL", ""]

/-- One or two digits at the front, and the rest. -/
def oneOrTwo? : List Char → Option (List Char × List Char)
  | a :: b :: r =>
    if isDigit a then if isDigit b then some ([a, b], r) else some ([a], b :: r) else none
  | [a] => if isDigit a then some ([a], []) else none
  | [] => none

/-- Just two digits at the front, and the rest. -/
def two? : List Char → Option (List Char × List Char)
  | a :: b :: r => if isDigit a && isDigit b then some ([a, b], r) else none
  | _ => none

/-- The parts of a point in time, as digits. -/
structure TimeParts where
  year : List Char
  month : List Char
  day : List Char
  /-- Hour, minute, second and fraction, when there is a time of day. -/
  time : Option (List Char × List Char × List Char × List Char) := none
  /-- The sign, hour and minute of the zone. -/
  zone : Option (Char × List Char × List Char) := none
  deriving DecidableEq

/-- Takes the character `c` off the front. -/
def expect? (c : Char) : List Char → Option (List Char)
  | d :: r => if c = d then some r else none
  | [] => none

/-- The zone at the end of a point in time. -/
def zone? (s : List Char) : Option (Option (Char × List Char × List Char)) := do
  match s.dropWhile (fun c => c == ' ' || c == '\t') with
  | [] => if s.isEmpty then some none else none
  | ['Z'] => some none
  | c :: r =>
    if c == '-' || c == '+' then
      let (hour, r) ← oneOrTwo? r
      match r with
      | [] => some (some (c, hour, []))
      | ':' :: r =>
        let (minute, r) ← two? r
        if r.isEmpty then some (some (c, hour, minute)) else none
      | _ => none
    else none

/-- Splits a point in time into its parts. -/
def timeParts? (s : List Char) : Option TimeParts := do
  let year := s.take 4
  if year.length != 4 || !year.all isDigit then none
  let r ← expect? '-' (s.drop 4)
  let (month, r) ← oneOrTwo? r
  let r ← expect? '-' r
  let (day, r) ← oneOrTwo? r
  if r.isEmpty then return { year, month, day }
  let r ← match r with
    | 'T' :: r => some r
    | 't' :: r => some r
    | c :: _ =>
      if c == ' ' || c == '\t' then some (r.dropWhile (fun c => c == ' ' || c == '\t')) else none
    | [] => none
  let (hour, r) ← oneOrTwo? r
  let r ← expect? ':' r
  let (minute, r) ← two? r
  let r ← expect? ':' r
  let (second, r) ← two? r
  let (fraction, r) := match r with
    | '.' :: r => (r.takeWhile isDigit, r.dropWhile isDigit)
    | _ => ([], r)
  let zone ← zone? r
  return { year, month, day, time := some (hour, minute, second, fraction), zone }

/-- The form of points in time: a date alone has two digits for month and day. -/
def isTimestampForm (s : List Char) : Bool :=
  match timeParts? s with
  | some p => p.time.isSome || (p.month.length == 2 && p.day.length == 2)
  | none => false

/-- A text without a line end that closes it. -/
def dropFinalBreak (s : List Char) : List Char :=
  if s.getLast? == some '\n' then s.dropLast else s

/-- The tag of a plain text, by its form. -/
def resolvedTag (text : String) : String :=
  let s := dropFinalBreak text.toList
  let word := String.ofList s
  if boolWords.contains word then Tag.bool
  else if isFloatForm s then Tag.float
  else if isIntForm s then Tag.int
  else if word == "<<" then Tag.merge
  else if nullWords.contains word && (word != "" || text == "") then Tag.null
  else if isTimestampForm s then Tag.timestamp
  else if word == "=" then Tag.value
  else Tag.str

/-! ## Values -/

/-- Reads digits in a base; underscores may stand between digits, and a base may have its letter
in front. -/
def readInBase? (base : Nat) (s : List Char) : Option Int :=
  let body := Text.trim s
  let (negative, body) := match body with
    | '-' :: r => (true, r)
    | '+' :: r => (false, r)
    | r => (false, r)
  let value? := fun (c : Char) =>
    match Text.digitValue? c with
    | some d => some d
    | none =>
      if 'a' ≤ c && c ≤ 'z' then some (c.toNat - 87)
      else if 'A' ≤ c && c ≤ 'Z' then some (c.toNat - 55) else none
  let digits := body.filter (· != '_')
  if digits.isEmpty then none
  else
    (digits.foldl (fun n c => do
      let n ← n
      let d ← value? c
      if d < base then some (base * n + d) else none) (some 0)).map
      (fun (n : Nat) => if negative then -(n : Int) else n)

def badInt (base : Nat) (s : List Char) : ValueFault :=
  .bad ("invalid literal for int() with base " ++ toString base ++ ": " ++
    String.ofList (Text.Quoted.quote s))

def readInt (base : Nat) (s : List Char) : Except ValueFault Int :=
  let count := (s.filter Text.isDecimal).length
  if base == 10 && Text.maxDigits < count then .error (.bad (Text.tooManyDigits count))
  else match readInBase? base s with
    | some n => .ok n
    | none => .error (badInt base s)

/-- Cuts at colons. -/
def colonParts (s : List Char) : List (List Char) := Text.splitOn ':' s

def intValue (text : String) : Except ValueFault Int :=
  let s := text.toList.filter (· != '_')
  match s with
  | [] => .error .emptyNumber
  | sign :: _ =>
    let body := dropSign s
    let signed := fun (n : Int) => if sign == '-' then -n else n
    match body with
    | ['0'] => .ok 0
    | '0' :: 'b' :: r => (readInt 2 r).map signed
    | '0' :: 'x' :: r => (readInt 16 r).map signed
    | '0' :: _ => (readInt 8 body).map signed
    | [] => .error .emptyNumber
    | _ =>
      if body.contains ':' then do
        let parts ← (colonParts body).mapM (readInt 10)
        return signed (parts.foldl (fun n p => 60 * n + p) 0)
      else (readInt 10 body).map signed

/-- Reads a number with a point or an exponent. -/
def readFloat? (s : List Char) : Option Float :=
  let body := Text.trim s
  let (negative, body) := match body with
    | '-' :: r => (true, r)
    | '+' :: r => (false, r)
    | r => (false, r)
  let signed := fun (x : Float) => if negative then -x else x
  let word := String.ofList (Text.lower body)
  if word == "inf" || word == "infinity" then some (signed (1.0 / 0.0))
  else if word == "nan" then some (0.0 / 0.0)
  else
    let whole := body.takeWhile isDigit
    let rest := body.dropWhile isDigit
    let (fraction, rest) := match rest with
      | '.' :: r => (r.takeWhile isDigit, r.dropWhile isDigit)
      | _ => ([], rest)
    let exponent? : Option Int := match rest with
      | [] => some 0
      | e :: r =>
        if e == 'e' || e == 'E' then
          if !(dropSign r).isEmpty && (dropSign r).all isDigit then Text.readInteger? r else none
        else none
    if whole.isEmpty && fraction.isEmpty then none
    else exponent?.map (fun e =>
      let digits := (whole ++ fraction).foldl (fun n c => 10 * n + (c.toNat - 48)) 0
      signed (Decimal.nearest digits (e - fraction.length)))

def readFloat (s : List Char) : Except ValueFault Float :=
  match readFloat? s with
  | some x => .ok x
  | none =>
    .error (.bad ("could not convert string to float: " ++ String.ofList (Text.Quoted.quote s)))

def floatValue (text : String) : Except ValueFault Float :=
  let s := Text.lower (text.toList.filter (· != '_'))
  match s with
  | [] => .error .emptyNumber
  | sign :: _ =>
    let body := dropSign s
    let signed := fun (x : Float) => if sign == '-' then -x else x
    if body == ['.', 'i', 'n', 'f'] then .ok (signed (1.0 / 0.0))
    else if body == ['.', 'n', 'a', 'n'] then .ok (0.0 / 0.0)
    else if body.contains ':' then do
      let parts ← (colonParts body).mapM readFloat
      -- the factor of the first part must still have a place among the finite numbers
      if Nat.pow 2 1024 ≤ Nat.pow 60 (parts.length - 1) then
        throw (.tooLarge "int too large to convert to float")
      let (total, _) := parts.reverse.foldl
        (fun (total, base) x => (total + x * Float.ofNat base, base * 60)) ((0.0 : Float), 1)
      return signed total
    else (readFloat body).map signed

def truthValue (text : String) : Except ValueFault Bool :=
  let word := Text.lowerString text
  if ["yes", "true", "on"].contains word then .ok true
  else if ["no", "false", "off"].contains word then .ok false
  else .error (.noTruth word)

def digitsValue (s : List Char) : Nat := s.foldl (fun n c => 10 * n + (c.toNat - 48)) 0

def isLeapYear (y : Nat) : Bool := y % 4 == 0 && (y % 100 != 0 || y % 400 == 0)

def daysIn (year month : Nat) : Nat :=
  if month == 2 then if isLeapYear year then 29 else 28
  else if [4, 6, 9, 11].contains month then 30 else 31

def checkDate (year month day : Nat) : Except ValueFault Unit :=
  if year == 0 then .error (.bad "year 0 is out of range")
  else if month == 0 || 12 < month then .error (.bad "month must be in 1..12")
  else if day == 0 || daysIn year month < day then .error (.bad "day is out of range for month")
  else .ok ()

/-- A zone must lie within a day; `minutes` is its distance. -/
def checkZone (negative : Bool) (minutes : Nat) : Except ValueFault Unit :=
  if minutes < 24 * 60 then .ok ()
  else
    let seconds : Int := if negative then -(minutes * 60 : Nat) else (minutes * 60 : Nat)
    let days := seconds.fdiv 86400
    let rest := seconds.fmod 86400
    .error (.bad ("offset must be a timedelta strictly between -timedelta(hours=24) and " ++
      "timedelta(hours=24), not datetime.timedelta(days=" ++ toString days ++
      (if rest == 0 then "" else ", seconds=" ++ toString rest) ++ ")."))

/-- Checks that a text is a point in time that there is. -/
def checkTimestamp (text : String) : Except ValueFault Unit :=
  match timeParts? (dropFinalBreak text.toList) with
  | none => .error .noTimestamp
  | some p => do
    let date := checkDate (digitsValue p.year) (digitsValue p.month) (digitsValue p.day)
    match p.time with
    | none => date
    | some (hour, minute, second, _) =>
      match p.zone with
      | some (sign, h, m) => checkZone (sign == '-') (digitsValue h * 60 + digitsValue m)
      | none => pure ()
      date
      if 23 < digitsValue hour then throw (.bad "hour must be in 0..23")
      else if 59 < digitsValue minute then throw (.bad "minute must be in 0..59")
      else if 59 < digitsValue second then throw (.bad "second must be in 0..59")
      else return ()

/-! ## Binary data -/

/-- The value of a character of the sixty-four. -/
def sixBits? (c : Char) : Option Nat :=
  if 'A' ≤ c && c ≤ 'Z' then some (c.toNat - 65)
  else if 'a' ≤ c && c ≤ 'z' then some (c.toNat - 71)
  else if '0' ≤ c && c ≤ '9' then some (c.toNat + 4)
  else if c == '+' then some 62
  else if c == '/' then some 63
  else none

/-- Reads groups of four characters as three bytes each: `quad` characters of the current group
are read, `left` holds their bits not yet used, and `pads` signs of padding came since.  Other
characters are passed over. -/
def binaryFrom (quad left pads : Nat) (bytes : List Nat) : List Char → Except String (List Nat)
  | [] =>
    if quad == 0 then .ok bytes.reverse
    else if quad == 1 then
      .error ("Invalid base64-encoded string: number of data characters (" ++
        toString (bytes.length / 3 * 4 + 1) ++ ") cannot be 1 more than a multiple of 4")
    else .error "Incorrect padding"
  | c :: r =>
    if c == '=' then
      if 2 ≤ quad then
        if 4 ≤ quad + pads + 1 then .ok bytes.reverse else binaryFrom quad left (pads + 1) bytes r
      else binaryFrom quad left pads bytes r
    else match sixBits? c with
      | none => binaryFrom quad left pads bytes r
      | some b =>
        match quad with
        | 0 => binaryFrom 1 b 0 bytes r
        | 1 => binaryFrom 2 (b % 16) 0 ((left * 4 + b / 16) :: bytes) r
        | 2 => binaryFrom 3 (b % 4) 0 ((left * 16 + b / 4) :: bytes) r
        | _ => binaryFrom 0 0 0 ((left * 64 + b) :: bytes) r

/-- The first run of characters outside ASCII, in words. -/
def nonAscii? (s : List Char) : Option String :=
  let ascii := fun (c : Char) => c.toNat < 128
  let start := (s.takeWhile ascii).length
  let run := (s.drop start).takeWhile (fun c => !ascii c)
  match run with
  | [] => none
  | [c] =>
    let n := c.toNat
    let escaped := if n < 0x100 then '\\' :: 'x' :: Text.Quoted.hex 2 n
      else if n < 0x10000 then '\\' :: 'u' :: Text.Quoted.hex 4 n
      else '\\' :: 'U' :: Text.Quoted.hex 8 n
    some ("'ascii' codec can't encode character '" ++ String.ofList escaped ++ "' in position " ++
      toString start ++ ": ordinal not in range(128)")
  | _ =>
    some ("'ascii' codec can't encode characters in position " ++ toString start ++ "-" ++
      toString (start + run.length - 1) ++ ": ordinal not in range(128)")

def binaryValue (text : String) : Except String (List Nat) :=
  match nonAscii? text.toList with
  | some problem => .error ("failed to convert base64 data into ascii: " ++ problem)
  | none =>
    match binaryFrom 0 0 0 [] text.toList with
    | .ok bytes => .ok bytes
    | .error problem => .error ("failed to decode base64 data: " ++ problem)

end SiteAudit.Yaml
