import SiteAudit.Text.Blank
import SiteAudit.Text.Quoted
/-!
# Messages with arguments

A message may hold places that arguments are filled into, one after the other: `%d` for a number,
`%s` for anything, and some more.  A place may ask for a least width, a sign, or leading zeros.
Where places and arguments do not fit together there is no message.
-/
namespace SiteAudit.Log

open Text

/-- What can be filled into a message. -/
inductive Argument where
  | int (n : Int)
  | text (s : String)
  | bool (b : Bool)
  | nothing
  /-- Any other value, by its texts: plain, and in quotes. -/
  | other (plain quoted : String)
  deriving DecidableEq, Repr

namespace Argument

def plain : Argument → String
  | int n => toString n
  | text s => s
  | bool b => if b then "True" else "False"
  | nothing => "None"
  | other plain _ => plain

/-- The text of an argument, with quotes around texts. -/
def quoted : Argument → String
  | text s => Quoted.quoteString s
  | other _ quoted => quoted
  | a => a.plain

def int? : Argument → Option Int
  | int n => some n
  | bool b => some (if b then 1 else 0)
  | _ => none

end Argument

/-- What a place asks for. -/
structure Slot where
  left : Bool := false
  zeros : Bool := false
  plus : Bool := false
  space : Bool := false
  mark : Bool := false
  width : Nat := 0
  precision : Option Nat := none

/-- Pads a text to the width of a place. -/
def Slot.pad (slot : Slot) (s : List Char) : List Char :=
  let fill := List.replicate (slot.width - s.length) ' '
  if slot.left then s ++ fill else fill ++ s

/-- A number with its sign, `lead` before its digits. -/
def Slot.number (slot : Slot) (negative : Bool) (lead digits : List Char) : List Char :=
  let sign := if negative then ['-'] else if slot.plus then ['+']
    else if slot.space then [' '] else []
  let digits := List.replicate (slot.precision.getD 0 - digits.length) '0' ++ digits
  let front := sign ++ lead
  if slot.zeros && !slot.left then
    front ++ List.replicate (slot.width - front.length - digits.length) '0' ++ digits
  else slot.pad (front ++ digits)

/-- A text, cut to the precision of a place. -/
def Slot.text (slot : Slot) (s : String) : List Char :=
  slot.pad (match slot.precision with
    | some p => s.toList.take p
    | none => s.toList)

/-- Fills one argument into a place of the given kind. -/
def fill? (slot : Slot) (kind : Char) (a : Argument) : Option (List Char) :=
  let inBase := fun (base : Nat) (lead : String) =>
    a.int?.map (fun n =>
      slot.number (n < 0) (if slot.mark then lead.toList else []) (Nat.toDigits base n.natAbs))
  match kind with
  | 's' => some (slot.text a.plain)
  | 'r' | 'a' => some (slot.text a.quoted)
  | 'd' | 'i' | 'u' => inBase 10 ""
  | 'x' => inBase 16 "0x"
  | 'X' => (inBase 16 "0X").map (List.map Char.toUpper)
  | 'o' => inBase 8 "0o"
  | 'c' =>
    match a with
    | .int n => if 0 ≤ n && n < 0x110000 then some (slot.pad [Char.ofNat n.toNat]) else none
    | .text s => if s.length = 1 then some (slot.pad s.toList) else none
    | _ => none
  | _ => none

/-- Reads the switches of a place. -/
def slotFlags : Slot → List Char → Slot × List Char
  | slot, '-' :: r => slotFlags { slot with left := true } r
  | slot, '0' :: r => slotFlags { slot with zeros := true } r
  | slot, '+' :: r => slotFlags { slot with plus := true } r
  | slot, ' ' :: r => slotFlags { slot with space := true } r
  | slot, '#' :: r => slotFlags { slot with mark := true } r
  | slot, s => (slot, s)

def decimalOf (s : List Char) : Nat := s.foldl (fun n c => 10 * n + (c.toNat - 48)) 0

/-- Reads a place from behind its percent sign: what it asks for, its kind, and the rest. -/
def slot? (s : List Char) : Option (Slot × Char × List Char) :=
  let (slot, s) := slotFlags {} s
  let width := s.takeWhile Char.isDigit
  let s := s.dropWhile Char.isDigit
  let (precision, s) := match s with
    | '.' :: r => (some (decimalOf (r.takeWhile Char.isDigit)), r.dropWhile Char.isDigit)
    | _ => (none, s)
  match s.dropWhile (fun c => c == 'l' || c == 'h' || c == 'L') with
  | [] => none
  | kind :: rest => some ({ slot with width := decimalOf width, precision }, kind, rest)

/-- Fills arguments in, with at most as many steps as given. -/
def formatSteps : Nat → List Char → List Argument → Option (List Char)
  | 0, _, _ => none
  | _ + 1, [], args => if args.isEmpty then some [] else none
  | k + 1, c :: r, args =>
    if c = '%' then
      match slot? r with
      | none => none
      | some (slot, '%', rest) => (formatSteps k rest args).map (slot.pad ['%'] ++ ·)
      | some (slot, kind, rest) =>
        match args with
        | [] => none
        | a :: more =>
          match fill? slot kind a with
          | none => none
          | some s => (formatSteps k rest more).map (s ++ ·)
    else (formatSteps k r args).map (c :: ·)

/-- A message with its arguments filled in.  Without arguments it is taken as it is. -/
def format? (message : String) (args : List Argument) : Option String :=
  if args.isEmpty then some message
  else (formatSteps (message.length + 1) message.toList args).map String.ofList

end SiteAudit.Log
