import SiteAudit.Issue
/-!
# Text reports

A report lists the issues by severity, each group under a heading with its size, and ends with the
tally in one line.
-/
namespace SiteAudit.Report

/-- The groups of a report in their order, with their headings. -/
def headings : List (Severity × String) :=
  [(.error, "ERRORS"), (.warning, "WARNINGS"), (.info, "INFO")]

/-- One issue in one line; an issue of the whole batch has no path. -/
def issueLine (i : Issue) : String :=
  "  " ++ (if i.path = "" then "<batch>" else i.path) ++ ":" ++ toString i.line ++ ":" ++
    toString i.column ++ " [" ++ i.rule ++ "] " ++ i.message

def group (issues : List Issue) (severity : Severity) (heading : String) : List String :=
  let members := issues.filter (fun i => i.severity == severity)
  if members.isEmpty then []
  else (heading ++ " (" ++ toString members.length ++ "):") :: members.map issueLine ++ [""]

def summaryLine (t : Tally) : String :=
  "Summary: " ++ toString t.errors ++ " errors, " ++ toString t.warnings ++ " warnings, " ++
    toString t.infos ++ " info"

/-- The lines of the report of a response that has issues.  See SPEC_FULL.md:218-220. -/
def lines (r : Response) : List String :=
  headings.flatMap (fun (severity, heading) => group r.lint.issues severity heading) ++
    [summaryLine r.lint.tally]

def text (r : Response) : String :=
  if r.lint.issues.isEmpty then "No issues found" else "\n".intercalate (lines r)

end SiteAudit.Report
