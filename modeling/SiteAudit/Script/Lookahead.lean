import SiteAudit.Script.Automaton
import SiteAudit.Script.Layout
import SiteAudit.Script.Subtree
/-!
# The token that comes next

Which token comes next depends on the state of the reading: tokens that are valid there are looked
for first.  Where none of them matches, any token will do, and where there is none at all,
characters are passed over until there is one.

* `lookahead` gives the next token as a tree.
-/
namespace SiteAudit.Script

/-- The words that look like names, as bits. -/
def keywordTokens : Nat := keywordNumbers.fold (fun bits _ n => bits ||| bit n) 0

/-- The words that are no names in some states, as bits. -/
def reservedTokens : Nat := reservedWords.foldl (fun bits w => bits ||| bit (tokenNumber w)) 0

/-- The tokens that are matched by their own text, with their numbers.  Words that look like names
are matched as names. -/
def plainTokens : List (Nat × Form) :=
  tokens.toList.zipIdx.filterMap (fun (t, n) =>
    if isKeyword t || t.form == .layout then none else some (n, t.form))

/-- The tokens to look for where some are valid: names also stand for words. -/
def lookedFor (valid : Nat) : Nat :=
  if valid &&& keywordTokens == 0 then valid else valid ||| bit identifierToken

/-- The best match among some tokens. -/
def matchAt (source : Source) (wanted place : Nat) : Option Match :=
  let here := source.tail place
  let start := place + spanLength isSeparator here
  let beyond := source.tail start
  best (plainTokens.filterMap (fun (token, form) =>
    if !wanted.testBit token then none
    else if form.isImmediate then
      (form.length? here).map (fun n => { token, form, start := place, stop := place + n })
    else (form.length? beyond).map (fun n => { token, form, start, stop := start + n })))

/-- The tree for a match; a name that is a usable word becomes that word. -/
def Match.toSubtree (source : Source) (usable : Nat) (place : Nat) (m : Match) : Subtree :=
  if m.token == identifierToken then
    let text := String.ofList ((source.tail m.start).take (m.stop - m.start))
    match keywordNumbers[text]? with
    | some word =>
      .leaf (if usable.testBit word then word else m.token) place m.start m.stop true
    | none => .leaf m.token place m.start m.stop false
  else .leaf m.token place m.start m.stop false

/-- The tokens that are looked for where nothing is expected. -/
def anyTokens : Nat := lookedFor errorTokens

/-- How many characters are read in vain where no token matches. -/
def vainLength (s : List Char) : Nat :=
  let escape (s : List Char) : Nat :=
    match s with
    | '\\' :: 'u' :: '\x7b' :: r => 3 + spanLength isHexDigit r
    | '\\' :: 'u' :: r => 2 + spanLength isHexDigit (r.take 4)
    | '\\' :: _ => 1
    | _ => 0
  match s with
  | '#' :: r => 1 + escape r
  | s => escape s

/-- Passes over characters until a token matches; `stop` is the end of what was passed over. -/
def passUnknown (source : Source) : Nat → Nat → Nat
  | 0, stop => stop
  | k + 1, stop =>
    match matchAt source anyTokens stop with
    | some _ => stop
    | none =>
      let start := stop + spanLength isSeparator (source.tail stop)
      let reached := start + vainLength (source.tail start)
      passUnknown source k (if reached == stop then reached + 1 else reached)

/-- The next token where nothing is expected. -/
def anyToken (source : Source) (usable place : Nat) : Subtree :=
  match matchAt source anyTokens place with
  | some m => m.toSubtree source usable place
  | none =>
    let start := place + spanLength isSeparator (source.tail place)
    let reached := start + max 1 (vainLength (source.tail start))
    .leaf skippedText place start (passUnknown source source.size reached) false

/-- What the layout may show where some tokens are valid. -/
def wantedLayout (valid : Nat) : Layout.Wanted where
  semicolon := valid.testBit (tokenNumber "_automatic_semicolon")
  templateText := valid.testBit (tokenNumber "_template_chars")
  questionMark := valid.testBit (tokenNumber "_ternary_qmark")
  markupComment := valid.testBit markupCommentToken
  elementText := valid.testBit (tokenNumber "jsx_text")
  logicalOr := valid.testBit (tokenNumber "||")
  escape := valid.testBit (tokenNumber "escape_sequence")
  pattern := valid.testBit (tokenNumber "regex_pattern")

/-- The token for a kind of layout. -/
def Layout.Kind.token : Layout.Kind → Nat
  | semicolon => tokenNumber "_automatic_semicolon"
  | templateText => tokenNumber "_template_chars"
  | questionMark => tokenNumber "_ternary_qmark"
  | markupComment => markupCommentToken
  | elementText => tokenNumber "jsx_text"

/-- The next token of a reading.  A token without text is not taken twice at one error: `advanced`
tells whether the reading has passed over text since its last error. -/
def lookahead (source : Source) (automaton : Automaton) (state place : Nat) (advanced : Bool) :
    Subtree :=
  if state == errorState then anyToken source errorTokens place
  else
    let s := automaton.state state
    let usable := if s.reserves then s.valid ||| reservedTokens else s.valid
    let shown := (Layout.scan (wantedLayout s.valid) (source.tail place)).filter
      (fun f => 0 < f.stop || advanced)
    match shown with
    | some f => .leaf f.kind.token place (place + f.start) (place + f.stop) false
    | none =>
      match matchAt source (lookedFor s.valid) place with
      | some m => m.toSubtree source usable place
      | none => anyToken source usable place

end SiteAudit.Script
