import SiteAudit.Text.Blank
import SiteAudit.Tag.Lexer
/-!
# Selectors that stylesheets define

The classes and ids that a stylesheet defines are those named in its top-level selectors.  They
are found without a grammar: comments and `url(…)` are taken out, the texts before the outermost
opening braces are kept, and in them every dot or hash with a name behind it counts.

* `stripComments`, `stripUrls` clean a text.
* `preludes` are the texts before the outermost opening braces.
* `Definitions.addSheet` adds what a stylesheet defines, `Definitions.addMarkup` what the style
  blocks of a document define.
-/
namespace SiteAudit.Stylesheet

open Text

/-! ## Cleaning -/

/-- Whether a comment that begins before `s` ends in it. -/
def commentCloses : List Char → Bool
  | [] => false
  | '*' :: '/' :: _ => true
  | _ :: r => commentCloses r

/-- Takes out the comments; the flag says whether the text begins inside one.  A comment that is
never closed stays. -/
def stripCommentsFrom : Bool → List Char → List Char
  | _, [] => []
  | false, '/' :: '*' :: r =>
    if commentCloses r then stripCommentsFrom true r else '/' :: '*' :: r
  | true, '*' :: '/' :: r => stripCommentsFrom false r
  | true, _ :: r => stripCommentsFrom true r
  | false, c :: r => c :: stripCommentsFrom false r

def stripComments (s : List Char) : List Char := stripCommentsFrom false s

/-- Whether `url`, in any case, and a pair of round brackets begin here. -/
def startsUrl (s : List Char) : Bool :=
  match Tag.afterWord? ['u', 'r', 'l'] s with
  | none => false
  | some rest =>
    match trimStart rest with
    | '(' :: body => body.contains ')'
    | _ => false

/-- Takes out the `url(…)` pieces; the flag says whether the text begins inside one. -/
def stripUrlsFrom : Bool → List Char → List Char
  | _, [] => []
  | true, c :: r => stripUrlsFrom (c != ')') r
  | false, c :: r =>
    if startsUrl (c :: r) then stripUrlsFrom true r else c :: stripUrlsFrom false r

def stripUrls (s : List Char) : List Char := stripUrlsFrom false s

/-- A stylesheet without comments and addresses.  See SPEC_FULL.md:136-137. -/
def clean (s : List Char) : List Char := stripUrls (stripComments s)

/-! ## Selectors -/

/-- The texts before opening braces at depth zero.  `current` holds the text read so far at that
depth, last character first.  The depth may fall below zero, and then nothing is collected until it
is zero again.  See SPEC_FULL.md:137-138. -/
def preludesFrom (depth : Int) (current : List Char) : List Char → List (List Char)
  | [] => []
  | c :: r =>
    if c = '{' then
      if depth = 0 then current.reverse :: preludesFrom 1 [] r
      else preludesFrom (depth + 1) current r
    else if c = '}' then preludesFrom (depth - 1) current r
    else if depth = 0 then preludesFrom depth (c :: current) r
    else preludesFrom depth current r

def preludes (s : List Char) : List (List Char) := preludesFrom 0 [] s

/-- All selectors of a stylesheet in one text, with a space between them. -/
def selectorText (sheet : List Char) : List Char :=
  [' '].intercalate (preludes (clean sheet))

def isAsciiLetter (c : Char) : Bool := ('a' ≤ c && c ≤ 'z') || ('A' ≤ c && c ≤ 'Z')

/-- Characters inside the name of a class or id. -/
def isNameChar (c : Char) : Bool :=
  isAsciiLetter c || ('0' ≤ c && c ≤ '9') || c == '_' || c == '-'

/-- Characters that may begin a class name. -/
def startsClassName (c : Char) : Bool := isAsciiLetter c || c == '_' || c == '-'

/-- Characters that may begin an id. -/
def startsIdName (c : Char) : Bool := isAsciiLetter c || c == '_'

/-- The names written behind `mark`.  Names do not hold marks, so no name hides another.  See
SPEC_FULL.md:138-140. -/
def namesBehind (mark : Char) (starts : Char → Bool) : List Char → List (List Char)
  | [] => []
  | c :: r =>
    match r with
    | d :: t =>
      if c = mark && starts d then (d :: t.takeWhile isNameChar) :: namesBehind mark starts r
      else namesBehind mark starts r
    | [] => []

def classNames (s : List Char) : List String :=
  (namesBehind '.' startsClassName s).map String.ofList

def idNames (s : List Char) : List String :=
  (namesBehind '#' startsIdName s).map String.ofList

/-! ## Definitions -/

/-- Adds a name to a list of distinct names. -/
def insertName (names : List String) (name : String) : List String :=
  if names.contains name then names else names ++ [name]

/-- The classes and ids defined so far, each once. -/
structure Definitions where
  classes : List String := []
  ids : List String := []
  deriving DecidableEq, Repr

namespace Definitions

def addSheet (d : Definitions) (sheet : List Char) : Definitions :=
  let text := selectorText sheet
  { classes := (classNames text).foldl insertName d.classes
    ids := (idNames text).foldl insertName d.ids }

end Definitions

/-- The style block that begins here: its text and the size of the whole block. -/
def styleBlock? (s : List Char) : Option (List Char × Nat) := do
  let r ← Tag.afterWord? "<style".toList s
  let (_, body) ← Tag.cutAt? '>' r
  let (text, rest) ← upToWord? body
  return (text, s.length - rest.length)
where
  /-- The text before the next `</style>` in any case, and the text behind it. -/
  upToWord? (s : List Char) : Option (List Char × List Char) :=
    match Tag.afterWord? "</style>".toList s with
    | some rest => some ([], rest)
    | none =>
      match s with
      | [] => none
      | c :: r => (upToWord? r).map (fun (a, b) => (c :: a, b))

/-- The texts of the style blocks of a document, after `skip` characters. -/
def styleBlocksFrom : Nat → List Char → List (List Char)
  | _, [] => []
  | skip + 1, _ :: r => styleBlocksFrom skip r
  | 0, c :: r =>
    match styleBlock? (c :: r) with
    | some (text, size) => text :: styleBlocksFrom (size - 1) r
    | none => styleBlocksFrom 0 r

def styleBlocks (markup : List Char) : List (List Char) := styleBlocksFrom 0 markup

/-- Adds what the style blocks of a document define.  See SPEC_FULL.md:134-136. -/
def Definitions.addMarkup (d : Definitions) (markup : List Char) : Definitions :=
  (styleBlocks markup).foldl Definitions.addSheet d

end SiteAudit.Stylesheet
