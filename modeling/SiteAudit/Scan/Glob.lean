/-!
# Globs

A glob is matched against a whole path: a star stands for any run of characters, a question mark
for any one character, and a set in square brackets for one character in it (or, after `!`, not in
it).  There are no escapes, and the slash is a character like any other.

* `Glob.read` reads a glob; every text is one.
* A range whose ends are in the wrong order is dropped, ends included.
-/
namespace SiteAudit.Scan

inductive GlobItem where
  | char (c : Char)
  | anyChar
  | anyRun
  | set (negated : Bool) (members : List Char) (ranges : List (Char × Char))
  deriving DecidableEq, Repr

abbrev Glob := List GlobItem

namespace Glob

/-! ## Sets -/

/-- Cuts the inside of a set at the hyphens that make ranges: the characters on both sides of
such a hyphen are the ends of a range.  `chunk` holds the current piece, last character first, and
`guard` the number of characters that must still come before a hyphen can make a range. -/
def chunksFrom (chunk : List Char) (guard : Nat) : List Char → List (List Char)
  | [] => if chunk.isEmpty then [] else [chunk.reverse]
  | c :: r =>
    if c = '-' && guard = 0 then
      match r with
      | [] => [(c :: chunk).reverse]
      | _ => chunk.reverse :: chunksFrom [] 2 r
    else chunksFrom (c :: chunk) (guard - 1) r

/-- Joins two pieces whose range is in the wrong order, without the ends of the range. -/
def mergeChunks : List (List Char) → List (List Char)
  | [] => []
  | chunk :: more =>
    match mergeChunks more with
    | [] => [chunk]
    | next :: rest =>
      match chunk.getLast?, next.head? with
      | some low, some high =>
        if high < low then (chunk.dropLast ++ next.drop 1) :: rest else chunk :: next :: rest
      | _, _ => chunk :: next :: rest

def rangesBetween : List (List Char) → List (Char × Char)
  | a :: b :: more =>
    (match a.getLast?, b.head? with
     | some low, some high => [(low, high)]
     | _, _ => []) ++ rangesBetween (b :: more)
  | _ => []

def setOf (inside : List Char) : GlobItem :=
  let chunks :=
    if inside.contains '-' then
      mergeChunks (chunksFrom [] (if inside.head? = some '!' then 2 else 1) inside)
    else [inside]
  match chunks with
  | ('!' :: first) :: more =>
    if first.isEmpty && more.isEmpty then .anyChar
    else .set true (first ++ more.flatten) (rangesBetween (first :: more))
  | _ => .set false chunks.flatten (rangesBetween chunks)

/-- The inside of a set and the text behind it, from behind the opening bracket.  A bracket that
comes first, or first after `!`, does not close the set. -/
def insideSet? (s : List Char) : Option (List Char × List Char) :=
  let lead := match s with
    | '!' :: ']' :: _ => 2
    | '!' :: _ => 1
    | ']' :: _ => 1
    | _ => 0
  let body := s.drop lead
  match body.dropWhile (· != ']') with
  | [] => none
  | _ :: rest => some (s.take lead ++ body.takeWhile (· != ']'), rest)

/-- Reads a glob, after `skip` characters that belong to a set already read. -/
def readFrom : Nat → List Char → Glob
  | _, [] => []
  | skip + 1, _ :: r => readFrom skip r
  | 0, c :: r =>
    if c = '*' then .anyRun :: readFrom 0 r
    else if c = '?' then .anyChar :: readFrom 0 r
    else if c = '[' then
      match insideSet? r with
      | some (inside, rest) => setOf inside :: readFrom (r.length - rest.length) r
      | none => .char c :: readFrom 0 r
    else .char c :: readFrom 0 r

def read (s : List Char) : Glob := readFrom 0 s

/-! ## Matching -/

/-- Whether a character matches an item that stands for one character. -/
def matchesOne (c : Char) : GlobItem → Bool
  | .char d => c == d
  | .anyChar => true
  | .anyRun => false
  | .set negated members ranges =>
    (members.contains c || ranges.any (fun (low, high) => low ≤ c && c ≤ high)) != negated

/-- A text and all its ends. -/
def tails : List Char → List (List Char)
  | [] => [[]]
  | c :: r => (c :: r) :: tails r

/-- Whether a whole text matches a glob. -/
def accepts : Glob → List Char → Bool
  | [], s => s.isEmpty
  | .anyRun :: g, s => (tails s).any (accepts g)
  | item :: g, s =>
    match s with
    | [] => false
    | c :: r => matchesOne c item && accepts g r

end Glob

end SiteAudit.Scan
