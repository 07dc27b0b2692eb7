import SiteAudit.Pattern.Basic
import SiteAudit.Text.Blank
import SiteAudit.Text.Integer
import SiteAudit.Text.Quoted
/-!
# Faults of patterns

Why a text is no pattern, and where in the text it shows.  Two causes are faults of a value rather
than of the pattern around it (`Cause.isValue`).
-/
namespace SiteAudit.Pattern

inductive Cause where
  | backslashAtEnd
  | badEscape (escape : List Char)
  | incompleteEscape (escape : List Char)
  /-- A hexadecimal escape beyond a machine's whole numbers. -/
  | numberTooLarge
  | octalTooLarge (escape : List Char)
  | missingBrace
  | missing (what : String)
  | missingTerminator (terminator : String)
  | undefinedName (name : List Char)
  | badGroupName (name : List Char)
  | unknownGroupName (name : List Char)
  | redefinedGroup (name : List Char) (now before : Nat)
  | badGroupNumber
  | invalidGroup (number : Nat)
  | openGroup
  | lookBehindGroup
  | unterminatedSet
  | badRange (first last : List Char)
  | repeatBounds
  | repeatTooLarge
  /-- A number of repetitions with too many digits to be read. -/
  | repeatTooLong (digits : Nat)
  | nothingToRepeat
  | multipleRepeat
  | unexpectedEnd
  | unknownExtension (text : List Char)
  | unterminatedComment
  | unterminatedGroup
  | thirdBranch
  | lateFlags
  | localeFlag
  | clashingFlags
  | clashingGlobalFlags
  | missingFlagEnd
  | unknownFlag
  | globalFlagOn
  | globalFlagOff
  | missingFlag
  | typeFlagOff
  | missingColon
  | flagOnAndOff
  | unbalanced
  | unboundedLookBehind
  | distantLookBehind
  /-- A repetition under the template switch. -/
  | templateRepeat (greed : Greed)
  deriving DecidableEq, Repr

/-- A cause with its place in the pattern, if it has one. -/
structure Fault where
  cause : Cause
  position : Option Nat
  pattern : List Char
  deriving DecidableEq, Repr

def Cause.quoted (s : List Char) : String := String.ofList (Text.Quoted.quote s)

def Greed.operator : Greed → String
  | greedy => "MAX_REPEAT"
  | lazy => "MIN_REPEAT"
  | possessive => "POSSESSIVE_REPEAT"

def Cause.message : Cause → String
  | backslashAtEnd => "bad escape (end of pattern)"
  | badEscape e => "bad escape " ++ String.ofList e
  | incompleteEscape e => "incomplete escape " ++ String.ofList e
  | numberTooLarge => "Python int too large to convert to C int"
  | octalTooLarge e => "octal escape value " ++ String.ofList e ++ " outside of range 0-0o377"
  | missingBrace => "missing \x7b"
  | missing what => "missing " ++ what
  | missingTerminator t => "missing " ++ t ++ ", unterminated name"
  | undefinedName name => "undefined character name " ++ quoted name
  | badGroupName name => "bad character in group name " ++ quoted name
  | unknownGroupName name => "unknown group name " ++ quoted name
  | redefinedGroup name now before =>
    "redefinition of group name " ++ quoted name ++ " as group " ++ toString now ++
      "; was group " ++ toString before
  | badGroupNumber => "bad group number"
  | invalidGroup n => "invalid group reference " ++ toString n
  | openGroup => "cannot refer to an open group"
  | lookBehindGroup => "cannot refer to group defined in the same lookbehind subpattern"
  | unterminatedSet => "unterminated character set"
  | badRange a b => "bad character range " ++ String.ofList a ++ "-" ++ String.ofList b
  | repeatBounds => "min repeat greater than max repeat"
  | repeatTooLarge => "the repetition number is too large"
  | repeatTooLong n => Text.tooManyDigits n
  | nothingToRepeat => "nothing to repeat"
  | multipleRepeat => "multiple repeat"
  | unexpectedEnd => "unexpected end of pattern"
  | unknownExtension text => "unknown extension ?" ++ String.ofList text
  | unterminatedComment => "missing ), unterminated comment"
  | unterminatedGroup => "missing ), unterminated subpattern"
  | thirdBranch => "conditional backref with more than two branches"
  | lateFlags => "global flags not at the start of the expression"
  | localeFlag => "bad inline flags: cannot use 'L' flag with a str pattern"
  | clashingFlags => "bad inline flags: flags 'a', 'u' and 'L' are incompatible"
  | clashingGlobalFlags => "ASCII and UNICODE flags are incompatible"
  | missingFlagEnd => "missing -, : or )"
  | unknownFlag => "unknown flag"
  | globalFlagOn => "bad inline flags: cannot turn on global flag"
  | globalFlagOff => "bad inline flags: cannot turn off global flag"
  | missingFlag => "missing flag"
  | typeFlagOff => "bad inline flags: cannot turn off flags 'a', 'u' and 'L'"
  | missingColon => "missing :"
  | flagOnAndOff => "bad inline flags: flag turned on and off"
  | unbalanced => "unbalanced parenthesis"
  | unboundedLookBehind => "look-behind requires fixed-width pattern"
  | distantLookBehind => "looks too much behind"
  | templateRepeat g => "internal: unsupported template operator " ++ g.operator

/-- Whether a cause is a value that is refused as such, wherever it stands. -/
def Cause.isValue : Cause → Bool
  | clashingGlobalFlags | repeatTooLong _ => true
  | _ => false

/-- The wording of a fault, with its place; in a pattern of several lines also by line. -/
def Fault.message (f : Fault) : String :=
  match f.position with
  | none => f.cause.message
  | some p =>
    let before := f.pattern.take p
    let line := Text.newlines before + 1
    let column := (before.reverse.takeWhile (· != '\n')).length + 1
    f.cause.message ++ " at position " ++ toString p ++
      if f.pattern.contains '\n' then
        " (line " ++ toString line ++ ", column " ++ toString column ++ ")"
      else ""

end SiteAudit.Pattern
