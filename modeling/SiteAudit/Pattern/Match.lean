import SiteAudit.Text.Blank
import SiteAudit.Text.LowerCase
import SiteAudit.Text.WordChar
import SiteAudit.Pattern.Reader
/-!
# Matching patterns

A pattern is matched from a place in the text; its choices are tried in order, and each way to
match a part is handed to what follows, until all of it has matched.

* `Node.run` matches from one place; `search` tries all places from the front.
* Without regard to case, characters are equal when their small letters are, or when those share
  a capital.
-/
namespace SiteAudit.Pattern

open Text

/-! ## Characters -/

/-- Small letters that share a capital although they differ. -/
def caseSiblings : List (List Nat) :=
  [[0x69, 0x131], [0x73, 0x17F], [0xB5, 0x3BC], [0x345, 0x3B9, 0x1FBE], [0x390, 0x1FD3],
   [0x3B0, 0x1FE3], [0x3B2, 0x3D0], [0x3B5, 0x3F5], [0x3B8, 0x3D1], [0x3BA, 0x3F0],
   [0x3C0, 0x3D6], [0x3C1, 0x3F1], [0x3C2, 0x3C3], [0x3C6, 0x3D5], [0x432, 0x1C80],
   [0x434, 0x1C81], [0x43E, 0x1C82], [0x441, 0x1C83], [0x442, 0x1C84, 0x1C85], [0x44A, 0x1C86],
   [0x463, 0x1C87], [0x1C88, 0xA64B], [0x1E61, 0x1E9B], [0xFB05, 0xFB06]]

def smallOf (ascii : Bool) (n : Nat) : Nat :=
  if n < 0x80 then if 65 ≤ n && n ≤ 90 then n + 32 else n
  else if ascii then n
  else if n == 0x130 then 0x69
  else match caseRuns.find? (fun r => r.first ≤ n && n ≤ r.last && (n - r.first) % r.step == 0) with
    | some r => (n + r.shift).toNat
    | none => n

/-- The small letters that count as equal to a code point. -/
def smallForms (ascii : Bool) (n : Nat) : List Nat :=
  let s := smallOf ascii n
  if ascii then [s] else (caseSiblings.find? (·.contains s)).getD [s]

/-- All code points that count as equal to `n`. -/
def caseForms (ascii : Bool) (n : Nat) : List Nat :=
  (smallForms ascii n).flatMap (fun s =>
    s :: if ascii then (if 97 ≤ s && s ≤ 122 then [s - 32] else [])
      else (if s == 0x69 then [0x130] else []) ++ caseRuns.filterMap (fun r =>
        let upper := ((s : Int) - r.shift).toNat
        if r.first ≤ upper && upper ≤ r.last && (upper - r.first) % r.step == 0 then some upper
        else none))

def isAsciiWord (c : Char) : Bool := c.toNat < 0x80 && isWord c

def Category.has (ascii : Bool) (which : Category) (c : Char) : Bool :=
  match which with
  | .digit => if ascii then '0' ≤ c && c ≤ '9' else isDecimal c
  | .space =>
    if ascii then c == ' ' || (0x09 ≤ c.toNat && c.toNat ≤ 0x0D) else isBlank c
  | .word => if ascii then isAsciiWord c else isWord c

def SetItem.has (ascii : Bool) (item : SetItem) (n : Nat) : Bool :=
  match item with
  | .char m => m == n
  | .range low high => low ≤ n && n ≤ high
  | .category which negated => which.has ascii (Char.ofNat n) != negated

/-- Whether a character is, up to case where that is asked, in the set of items. -/
def memberOf (f : Flags) (items : List SetItem) (c : Char) : Bool :=
  if f.ignoreCase then
    (caseForms f.ascii c.toNat).any (fun n => items.any (fun
      | .category which negated =>
        which.has f.ascii (Char.ofNat (smallOf f.ascii c.toNat)) != negated
      | item => item.has f.ascii n))
  else items.any (·.has f.ascii c.toNat)

/-- Whether a character is the given code point, up to case where that is asked. -/
def sameChar (f : Flags) (n : Nat) (c : Char) : Bool :=
  if f.ignoreCase then (smallForms f.ascii n).contains (smallOf f.ascii c.toNat) else n == c.toNat

/-! ## Places -/

/-- Whether a condition holds between the characters `before` and `behind`; `last` when `behind`
is the last character of the text. -/
def Anchor.holds (f : Flags) (a : Anchor) (before behind : Option Char) (last : Bool) : Bool :=
  let word := fun (c : Option Char) => c.any (Category.word.has f.ascii)
  match a with
  | .lineStart => before.isNone || (f.multiline && before == some '\n')
  | .lineEnd => behind.isNone || (behind == some '\n' && (f.multiline || last))
  | .textStart => before.isNone
  | .textEnd => behind.isNone
  | .wordBoundary => word before != word behind
  | .noWordBoundary => word before == word behind

/-- Where the groups matched: from and to. -/
abbrev Captures := List (Nat × Nat × Nat)

/-- A match so far: the place reached and the groups matched. -/
abbrev Progress := Nat × Captures

/-- What is to match next. -/
abbrev Next := Nat → Captures → Option Progress

/-- Repeats `once`: `count` repetitions are done, and `mark` is where the last optional one began.
An optional repetition is not begun twice at one place. -/
def repeatLoop (once : Nat → Captures → Next → Option Progress) (lazily : Bool) (least : Nat)
    (most : Option Nat) (next : Next) : Nat → Nat → Option Nat → Next
  | 0, _, _, pos, caps => next pos caps
  | fuel + 1, count, mark, pos, caps =>
    if count < least then
      once pos caps (repeatLoop once lazily least most next fuel (count + 1) mark)
    else
      let mayRepeat := most.all (count < ·) && mark != some pos
      let again := fun (_ : Unit) =>
        once pos caps (repeatLoop once lazily least most next fuel (count + 1) (some pos))
      if !mayRepeat then next pos caps
      else if lazily then
        match next pos caps with
        | some done => some done
        | none => again ()
      else
        match again () with
        | some done => some done
        | none => next pos caps

/-- Matches a pattern in `text` from a place on, and then `next`. -/
def Node.run (text : Array Char) (f : Flags) : Node → Nat → Captures → Next → Option Progress
  | .empty, pos, caps, next => next pos caps
  | .char n, pos, caps, next =>
    match text[pos]? with
    | some c => if sameChar f n c then next (pos + 1) caps else none
    | none => none
  | .notChar n, pos, caps, next =>
    match text[pos]? with
    | some c => if sameChar f n c then none else next (pos + 1) caps
    | none => none
  | .any, pos, caps, next =>
    match text[pos]? with
    | some c => if c == '\n' && !f.dotAll then none else next (pos + 1) caps
    | none => none
  | .set negated items, pos, caps, next =>
    match text[pos]? with
    | some c => if memberOf f items c != negated then next (pos + 1) caps else none
    | none => none
  | .anchor a, pos, caps, next =>
    let before := if pos == 0 then none else text[pos - 1]?
    if a.holds f before text[pos]? (pos + 1 == text.size) then next pos caps else none
  | .seq a b, pos, caps, next => a.run text f pos caps (fun pos caps => b.run text f pos caps next)
  | .alt a b, pos, caps, next =>
    match a.run text f pos caps next with
    | some done => some done
    | none => b.run text f pos caps next
  | .group number on off body, pos, caps, next =>
    body.run text (f.within on off) pos caps (fun last caps =>
      next last (match number with
        | some n => (n, pos, last) :: caps
        | none => caps))
  | .repeated greed least most body, pos, caps, next =>
    let once := fun pos caps next => body.run text f pos caps next
    let fuel := least + text.size + 2
    match greed with
    | .greedy => repeatLoop once false least most next fuel 0 none pos caps
    | .lazy => repeatLoop once true least most next fuel 0 none pos caps
    | .possessive =>
      match repeatLoop once false least most (fun pos caps => some (pos, caps)) fuel 0 none pos caps
      with
      | some (pos, caps) => next pos caps
      | none => none
  | .backref n, pos, caps, next =>
    match caps.lookup n with
    | some (first, last) =>
      let size := last - first
      if (List.range size).all (fun i =>
        match text[first + i]?, text[pos + i]? with
        | some a, some b =>
          if f.ignoreCase then smallOf f.ascii a.toNat == smallOf f.ascii b.toNat else a == b
        | _, _ => false)
      then next (pos + size) caps else none
    | none => none
  | .ahead negated body, pos, caps, next =>
    match body.run text f pos caps (fun pos caps => some (pos, caps)) with
    | some (_, caps') => if negated then none else next pos caps'
    | none => if negated then next pos caps else none
  | .behind negated low _ body, pos, caps, next =>
    let found := if pos < low then none
      else body.run text f (pos - low) caps (fun pos caps => some (pos, caps))
    match found with
    | some (_, caps') => if negated then none else next pos caps'
    | none => if negated then next pos caps else none
  | .conditional n yes no, pos, caps, next =>
    if (caps.lookup n).isSome then yes.run text f pos caps next else no.run text f pos caps next
  | .atomic body, pos, caps, next =>
    match body.run text f pos caps (fun pos caps => some (pos, caps)) with
    | some (pos, caps) => next pos caps
    | none => none

/-- Whether a pattern matches somewhere in a text. -/
def Compiled.search (p : Compiled) (s : List Char) : Bool :=
  let text := s.toArray
  (List.range (text.size + 1)).any (fun pos =>
    (p.root.run text p.flags pos [] (fun pos caps => some (pos, caps))).isSome)

end SiteAudit.Pattern
