import SiteAudit.Text.Blank
/-!
# Generated class names

Some class names are never defined in a stylesheet of the project: placeholders that a template
fills in, bindings of a framework, and the names of utility frameworks.  They are known by their
form.
-/
namespace SiteAudit.Markup

open Text

/-- Whether a text has one line only; a line end may close it. -/
def isOneLine (s : List Char) : Bool :=
  match s.dropWhile (· != '\n') with
  | [] => true
  | [_] => true
  | _ => false

/-- A text without a line end that closes it. -/
def dropFinalNewline (s : List Char) : List Char :=
  if s.getLast? == some '\n' then s.dropLast else s

/-- Whether a one-line text begins with `opening` and ends with `closing`, the two not
overlapping. -/
def enclosed (opening closing : String) (s : List Char) : Bool :=
  match after? opening.toList s with
  | none => false
  | some r => isOneLine r && endsWith closing.toList (dropFinalNewline r)

/-- Whether a text begins with one of the words followed by `mark`. -/
def beginsWithWord (words : List String) (mark : List Char) (s : List Char) : Bool :=
  words.any (fun w => startsWith (w.toList ++ mark) s)

/-- Placeholders of templates and bindings of frameworks. -/
def isDynamicName (s : List Char) : Bool :=
  enclosed "\x7b\x7b" "\x7d\x7d" s || enclosed "<%" "%>" s || enclosed "$\x7b" "\x7d" s ||
    enclosed "[" "]" s || enclosed ":" "" s || beginsWithWord ["v", "ng", "x"] ['-'] s

/-- Takes an optional character off the front. -/
def dropOptional (p : Char → Bool) : List Char → List Char
  | [] => []
  | c :: r => if p c then r else c :: r

/-- A distance: an optional minus, a letter for the property, an optional letter for the side, and
a dash. -/
def isSpacingName (s : List Char) : Bool :=
  match dropOptional (· == '-') s with
  | [] => false
  | c :: r =>
    "mpwh".toList.contains c &&
      (startsWith ['-'] r || startsWith ['-'] (dropOptional ("trblxy".toList.contains ·) r))

/-- Names of utility frameworks. -/
def isUtilityName (s : List Char) : Bool :=
  isSpacingName s ||
    beginsWithWord ["flex", "grid", "block", "inline", "hidden", "visible", "absolute", "relative",
      "fixed", "sticky"] [] s ||
    beginsWithWord ["text", "bg", "border", "rounded", "shadow", "opacity", "z"] ['-'] s ||
    beginsWithWord ["sm", "md", "lg", "xl", "2xl"] [':'] s ||
    beginsWithWord ["hover", "focus", "active", "disabled", "dark"] [':'] s ||
    beginsWithWord ["justify", "items", "content", "self"] ['-'] s ||
    beginsWithWord ["gap", "space"] ['-'] s ||
    beginsWithWord ["font", "leading", "tracking"] ['-'] s ||
    beginsWithWord ["overflow", "cursor", "pointer", "transition", "duration", "ease"] ['-'] s

/-- Whether a class name looks like one that a template or a framework supplies.  See
SPEC_FULL.md:148-156. -/
def isGeneratedName (name : String) : Bool :=
  isDynamicName name.toList || isUtilityName name.toList

end SiteAudit.Markup
