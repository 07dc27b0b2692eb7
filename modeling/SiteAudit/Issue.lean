/-!
# Issues and their tallies

An issue is one reported defect.  A check result is a list of issues with the number of issues of
each severity, and a response carries the result of one batch.

* `Tally.ofIssues` counts the issues of each severity.
* `CheckResult.ofIssues` joins a list and its tally.
-/
namespace SiteAudit

inductive Severity where
  | error
  | warning
  | info
  deriving DecidableEq, Repr

namespace Severity

def word : Severity → String
  | error => "error"
  | warning => "warning"
  | info => "info"

def ofWord? : String → Option Severity
  | "error" => some error
  | "warning" => some warning
  | "info" => some info
  | _ => none

end Severity

/-! ## Rules -/

namespace Rule

def braceUnexpected := "unbalanced-brace-unexpected"
def braceUnclosed := "unbalanced-brace-unclosed"
def commentUnclosed := "comment-unclosed"
def stringUnclosed := "string-unclosed"
def tagUnexpectedClose := "tag-unexpected-close"
def tagMismatch := "tag-mismatch"
def tagUnclosed := "tag-unclosed"
def markupParseError := "markup-parse-error"
def scriptSyntaxError := "script-syntax-error"
def scriptParseError := "script-parse-error"
def classUndefined := "class-undefined"
def idUndefined := "id-undefined"
def internalError := "analyzer-internal-error"

end Rule

/-- One reported defect with its place and origin.  Lines count from 1, columns from 0.  See
SPEC_FULL.md:42-45. -/
structure Issue where
  message : String
  path : String
  line : Nat
  column : Nat
  severity : Severity
  rule : String
  source : String
  deriving DecidableEq, Repr

/-! ## Results -/

/-- How many issues of each severity there are.  See SPEC_FULL.md:52-53. -/
structure Tally where
  errors : Nat := 0
  warnings : Nat := 0
  infos : Nat := 0
  deriving DecidableEq, Repr

namespace Tally

/-- The tally with one more issue of the given severity. -/
def add (t : Tally) : Severity → Tally
  | .error => { t with errors := t.errors + 1 }
  | .warning => { t with warnings := t.warnings + 1 }
  | .info => { t with infos := t.infos + 1 }

def ofIssues (issues : List Issue) : Tally :=
  issues.foldl (fun t i => t.add i.severity) {}

end Tally

structure CheckResult where
  issues : List Issue := []
  tally : Tally := {}
  deriving DecidableEq, Repr

def CheckResult.ofIssues (issues : List Issue) : CheckResult :=
  { issues, tally := Tally.ofIssues issues }

/-- What one batch is answered with.  The type check is reserved and always empty.  See
SPEC_FULL.md:54-57. -/
structure Response where
  lint : CheckResult
  typecheck : CheckResult := {}
  success : Bool := true
  deriving DecidableEq, Repr

/-- The lowest severity that makes a run fail. -/
inductive Threshold where
  | error
  | warning
  | never
  deriving DecidableEq, Repr

/-- Whether a response has an issue at or above the threshold. -/
def Response.fails (r : Response) : Threshold → Bool
  | .error => 0 < r.lint.tally.errors
  | .warning => 0 < r.lint.tally.errors || 0 < r.lint.tally.warnings
  | .never => false

end SiteAudit
