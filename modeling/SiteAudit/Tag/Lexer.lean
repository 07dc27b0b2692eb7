import SiteAudit.Text.Blank
import SiteAudit.Text.LowerCase
import SiteAudit.Text.Quoted
import SiteAudit.Tag.CharacterReference
import SiteAudit.Tag.Event
/-!
# Calls of a document

Reading a document cuts it into calls.  Reading is forgiving: what is no tag is text, and only a
marked section that makes no sense stops it.

* `StartTag.read` reads a start tag with its attributes.
* `Lexer.step` takes one piece off the front of the text; `Lexer.loop` repeats it.
* The contents of scripts and style sheets are raw text up to their own end tag.
* `lex` reads a complete document; `lexPartial` reads as far as the text is certain and keeps the
  rest back, as when more of the document may follow.
-/
namespace SiteAudit.Tag

open Text

def isLetter (c : Char) : Bool := ('a' ≤ c && c ≤ 'z') || ('A' ≤ c && c ≤ 'Z')

/-- The text before the first `c` and the text behind it. -/
def cutAt? (c : Char) (s : List Char) : Option (List Char × List Char) :=
  match s.dropWhile (· != c) with
  | [] => none
  | _ :: rest => some (s.takeWhile (· != c), rest)

/-! ## Start tags -/

namespace StartTag

/-- Characters that end the name of a tag. -/
def endsName (c : Char) : Bool :=
  c == '\t' || c == '\n' || c == '\r' || c == '\x0c' || c == ' ' || c == '/' || c == '>' ||
    c.toNat == 0

/-- Characters behind which an attribute may begin. -/
def isLead (c : Char) : Bool := c == '\'' || c == '"' || c == '/' || isBlank c

/-- Characters that may follow the first of an attribute's name. -/
def isAttributeChar (c : Char) : Bool := !(isBlank c || c == '/' || c == '=' || c == '>')

/-- Characters of a value without quotes. -/
def isBare (c : Char) : Bool := !(c == '>' || isBlank c)

/-- Passes over blanks and slashes, but not over the slash of `/>`; `prev` is the character
before the text, and the first result the one before the rest. -/
def skipGap (prev : Char) : List Char → Char × List Char
  | [] => (prev, [])
  | c :: r =>
    if isBlank c || (c == '/' && r.head? != some '>') then skipGap c r else (prev, c :: r)

/-- A text read, the last character taken, and the rest. -/
structure Piece where
  text : List Char
  last : Char
  rest : List Char

def bareValue (prev : Char) (s : List Char) : Piece :=
  let text := s.takeWhile isBare
  { text, last := text.getLast?.getD prev, rest := s.dropWhile isBare }

/-- Reads the equals signs and the value behind the name of an attribute.  A quote that is never
closed begins no value: behind a blank the value is then empty, behind several equals signs the
last of them begins a bare value, and else there is no value at all. -/
def value? (s : List Char) : Option Piece :=
  let s := s.dropWhile isBlank
  let signs := s.takeWhile (· == '=')
  let s := s.dropWhile (· == '=')
  let gap := s.takeWhile isBlank
  let s := s.dropWhile isBlank
  if signs.isEmpty then none
  else
    let prev := gap.getLast?.getD '='
    match s with
    | [] => some (bareValue prev [])
    | q :: r =>
      if q == '\'' || q == '"' then
        match cutAt? q r with
        | some (text, rest) => some { text, last := q, rest }
        | none =>
          if !gap.isEmpty then some { text := [], last := prev, rest := s }
          else if 1 < signs.length then some (bareValue '=' ('=' :: s))
          else none
      else some (bareValue prev s)

structure Attribute where
  name : List Char
  value : Option (List Char)

def attribute? (prev : Char) (s : List Char) : Option (Attribute × Char × List Char) :=
  match s with
  | [] => none
  | c :: r =>
    if !isLead prev || isBlank c || c == '/' || c == '>' then none
    else
      let name := c :: r.takeWhile isAttributeChar
      let rest := r.dropWhile isAttributeChar
      match value? rest with
      | some v => some (⟨name, some v.text⟩, skipGap v.last v.rest)
      | none => some (⟨name, none⟩, skipGap (name.getLast?.getD c) rest)

def attributes : Nat → Char → List Char → List Attribute × List Char
  | 0, _, s => ([], s)
  | k + 1, prev, s =>
    match attribute? prev s with
    | none => ([], s)
    | some (a, prev, rest) =>
      let (more, rest) := attributes k prev rest
      (a :: more, rest)

/-- What a text that begins like a start tag turns out to be. -/
inductive Reading where
  /-- A start tag, which may close itself, and the rest of the text. -/
  | tag (name : List Char) (attributes : List Attribute) (selfClosing : Bool) (rest : List Char)
  /-- No tag: the characters up to the rest are text. -/
  | noTag (rest : List Char)
  /-- The text ends inside the tag. -/
  | incomplete

/-- Reads a start tag from behind its `<`. -/
def read (s : List Char) : Reading :=
  let name := s.takeWhile (fun c => !endsName c)
  let (prev, rest) := skipGap (name.getLast?.getD '<') (s.drop name.length)
  let (attrs, rest) := attributes rest.length prev rest
  match rest with
  | '>' :: rest => .tag name attrs false rest
  | '/' :: '>' :: rest => .tag name attrs true rest
  | [] => .incomplete
  | c :: _ => if isLetter c || c == '=' || c == '/' then .incomplete else .noTag rest

end StartTag

/-! ## End tags, comments and declarations -/

def isEndNameChar (c : Char) : Bool :=
  isLetter c || ('0' ≤ c && c ≤ '9') || c == '-' || c == '.' || c == ':' || c == '_'

/-- The name in a well-formed end tag, whose text between `</` and `>` is given. -/
def endName? (body : List Char) : Option (List Char) :=
  let s := trimStart body
  match s with
  | [] => none
  | c :: _ =>
    if isLetter c && (s.dropWhile isEndNameChar).all isBlank then some (s.takeWhile isEndNameChar)
    else none

/-- The name in any other end tag: it must begin at once. -/
def looseEndName? (body : List Char) : Option (List Char) :=
  match body with
  | [] => none
  | c :: _ => if isLetter c then some (body.takeWhile (fun c => !StartTag.endsName c)) else none

/-- The text behind the first place where `opener` stands, followed by blanks and `>`. -/
def afterCloser? (opener : List Char) (s : List Char) : Option (List Char) :=
  match (after? opener s).map trimStart with
  | some ('>' :: rest) => some rest
  | _ =>
    match s with
    | [] => none
    | _ :: r => afterCloser? opener r

/-- The text behind the first `]`, blanks, `]`, blanks and `>`. -/
def afterSection? (s : List Char) : Option (List Char) :=
  match s with
  | [] => none
  | c :: r =>
    if c == ']' then
      match trimStart r with
      | ']' :: r' =>
        match trimStart r' with
        | '>' :: rest => some rest
        | _ => afterSection? r
      | _ => afterSection? r
    else afterSection? r

def isSectionNameChar (c : Char) : Bool :=
  isLetter c || ('0' ≤ c && c ≤ '9') || c == '-' || c == '_' || c == '.'

/-- How far a piece of markup reaches: `some` with the rest behind it, or `none` when the text
ends inside it. -/
abbrev Extent := Option (List Char)

def markedSection (whole s : List Char) : Except LexFault Extent :=
  match s with
  | [] => .ok none
  | c :: _ =>
    if !isLetter c then .error (.expectedName (whole.take 20))
    else
      let name := s.takeWhile isSectionNameChar
      let rest := s.dropWhile isSectionNameChar
      let gap := rest.takeWhile isBlank
      if (rest.dropWhile isBlank).isEmpty then .ok none
      else
        let word := String.ofList (lower name)
        if ["temp", "cdata", "ignore", "include", "rcdata"].contains word then
          .ok (afterSection? s)
        else if ["if", "else", "endif"].contains word then .ok (afterCloser? [']'] s)
        else .error (.unknownKeyword (name ++ gap))

def declaration (whole s : List Char) : Except LexFault Extent :=
  match s with
  | '-' :: '-' :: r => .ok (afterCloser? ['-', '-'] r)
  | '[' :: r => markedSection whole r
  | _ =>
    if lower (s.take 7) == "doctype".toList then .ok ((cutAt? '>' (s.drop 7)).map (·.2))
    else .ok ((cutAt? '>' s).map (·.2))

/-! ## Raw text -/

/-- Whether `c` is the small letter `letter` in some spelling: either case, or one of the
characters that fold to it. -/
def folds (letter c : Char) : Bool :=
  lowerChar c == letter || (letter == 's' && c.toNat == 0x17F) ||
    (letter == 'i' && (c.toNat == 0x130 || c.toNat == 0x131)) ||
    (letter == 'k' && c.toNat == 0x212A)

/-- The rest of `s` behind the word `word` in any spelling. -/
def afterWord? : List Char → List Char → Option (List Char)
  | [], s => some s
  | _ :: _, [] => none
  | l :: word, c :: s => if folds l c then afterWord? word s else none

/-- Whether an end tag for `element`, in any spelling, begins here. -/
def startsEndTag (element : List Char) (s : List Char) : Bool :=
  match s with
  | '<' :: '/' :: r =>
    match (afterWord? element (trimStart r)).map trimStart with
    | some ('>' :: _) => true
    | _ => false
  | _ => false

/-- The text before the next end tag for `element`, and the text from it on. -/
def beforeEndTag? (element : List Char) (s : List Char) : Option (List Char × List Char) :=
  if startsEndTag element s then some ([], s)
  else match s with
    | [] => none
    | c :: r => (beforeEndTag? element r).map (fun (a, b) => (c :: a, b))

/-! ## The loop -/

/-- What reading has come to. -/
structure Lexed where
  calls : List Call
  fault : Option LexFault := none
  deriving DecidableEq, Repr

/-- One step of reading. -/
inductive Step where
  /-- Some calls, whether raw text follows, and the rest of the document. -/
  | go (calls : List Call) (raw : Option (List Char)) (rest : List Char)
  /-- The last calls. -/
  | stop (calls : List Call)
  /-- Calls before a fault. -/
  | fail (calls : List Call) (fault : LexFault)

def dataCall (text : List Char) : List Call :=
  if text.isEmpty then [] else [.data (String.ofList text)]

/-- Text with references, then whatever `next` says.  References may leave nothing of a text; it
is passed on all the same. -/
def decoded (text : List Char) (next : List Call → Step) : Step :=
  match CharacterReference.decode text with
  | .ok chars => next [.data (String.ofList chars)]
  | .error fault => .fail [] fault

def decodeValue : Option (List Char) → Except LexFault (Option String)
  | none => .ok none
  | some v => (CharacterReference.decode v).map (fun chars => some (String.ofList chars))

/-- The attributes of a start tag, with names in lower case and references replaced. -/
def decodeAttributes (attrs : List StartTag.Attribute) :
    Except LexFault (List (String × Option String)) :=
  attrs.mapM (fun a => (decodeValue a.value).map (fun v => (String.ofList (lower a.name), v)))

/-- Markup that the text breaks off: kept back while more may follow, and else text up to the next
`>`, or to the next `<`, or one character. -/
def brokenOff (final : Bool) (s : List Char) : Step :=
  if !final then .stop []
  else
    let body := s.drop 1
    let size :=
      if body.contains '>' then (body.takeWhile (· != '>')).length + 2
      else if body.contains '<' then (body.takeWhile (· != '<')).length + 1
      else 1
    decoded (s.take size) (fun calls => .go calls none (s.drop size))

/-- Elements whose content is raw text. -/
def rawElements : List String := ["script", "style"]

def startTag (final : Bool) (s : List Char) : Step :=
  match StartTag.read (s.drop 1) with
  | .incomplete => brokenOff final s
  | .noTag rest => .go (dataCall (s.take (s.length - rest.length))) none rest
  | .tag name attrs selfClosing rest =>
    let word := lower name
    let tag := String.ofList word
    match decodeAttributes attrs with
    | .error fault => .fail [] fault
    | .ok attributes =>
      if selfClosing then .go [.start tag attributes, .finish tag] none rest
      else .go [.start tag attributes] (if rawElements.contains tag then some word else none) rest

def endTag (final : Bool) (s : List Char) : Step :=
  match cutAt? '>' (s.drop 2) with
  | none => brokenOff final s
  | some (body, rest) =>
    match endName? body with
    | some name => .go [.finish (String.ofList (lower name))] none rest
    | none =>
      match looseEndName? body with
      | some name => .go [.finish (String.ofList (lower name))] none rest
      | none => .go [] none rest

/-- Goes on behind a piece of markup that yields no call. -/
def passed (final : Bool) (s : List Char) : Extent → Step
  | some rest => .go [] none rest
  | none => brokenOff final s

/-- Reads markup; `s` begins with `<`. -/
def markup (final : Bool) (s : List Char) : Step :=
  match s with
  | _ :: '/' :: _ => endTag final s
  | _ :: '?' :: r => passed final s ((cutAt? '>' r).map (·.2))
  | _ :: '!' :: r =>
    match declaration s r with
    | .ok extent => passed final s extent
    | .error fault => .fail [] fault
  | _ :: c :: r => if isLetter c then startTag final s else .go [.data "<"] none (c :: r)
  | _ => if final then .stop (dataCall s) else .stop []

/-- How near to its end a text may hold an unfinished reference. -/
def pendingSpan : Nat := 34

/-- Whether a text may end inside a character reference: near its end there is an ampersand with
neither a blank nor a semicolon behind it. -/
def maybePending (s : List Char) : Bool :=
  let near := (s.reverse.take pendingSpan)
  near.contains '&' && !(near.takeWhile (· != '&')).any (fun c => isBlank c || c == ';')

/-- Reads one piece outside raw text. -/
def normalStep (final : Bool) (s : List Char) : Step :=
  let text := s.takeWhile (· != '<')
  let rest := s.drop text.length
  if rest.isEmpty then
    if !final && maybePending text then .stop [] else decoded text .stop
  else if text.isEmpty then markup final s
  else decoded text (fun calls => .go calls none rest)

/-- Reads one piece of raw text: everything before the end tag of the element, and the end tag
when it is spelt in plain letters. -/
def rawStep (element : List Char) (s : List Char) : Step :=
  match beforeEndTag? element s with
  | none => .stop []
  | some (text, tag) =>
    match cutAt? '>' (tag.drop 2) with
    | none => .stop (dataCall text)
    | some (body, rest) =>
      if (endName? body).map lower == some element then
        .go (dataCall text ++ [.finish (String.ofList element)]) none rest
      else .go (dataCall text ++ dataCall ('<' :: '/' :: body ++ ['>'])) (some element) rest

def loop (final : Bool) : Nat → Option (List Char) → List Char → Lexed
  | 0, _, _ => { calls := [] }
  | _ + 1, _, [] => { calls := [] }
  | k + 1, raw, c :: r =>
    let next := match raw with
      | none => normalStep final (c :: r)
      | some element => rawStep element (c :: r)
    match next with
    | .go calls raw rest =>
      let later := loop final k raw rest
      { later with calls := calls ++ later.calls }
    | .stop calls => { calls }
    | .fail calls fault => { calls, fault := some fault }

/-- The calls of a complete document. -/
def lex (s : List Char) : Lexed := loop true s.length none s

/-- The calls of the beginning of a document, as far as they are certain. -/
def lexPartial (s : List Char) : Lexed := loop false s.length none s

/-! ## Wording -/

def LexFault.message : LexFault → String
  | .expectedName text => "expected name token at " ++ String.ofList (Quoted.quote text)
  | .unknownKeyword keyword =>
    "unknown status keyword " ++ String.ofList (Quoted.quote keyword) ++ " in marked section"
  | .tooManyDigits count => Text.tooManyDigits count

end SiteAudit.Tag
