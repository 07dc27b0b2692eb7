import SiteAudit.Failure
import SiteAudit.Issue
import SiteAudit.Log.Record
/-!
# Findings

What a check leaves behind: the issues it found, or the failure it ended with, and the log records
it wrote on the way.
-/
namespace SiteAudit

/-- The outcome of one check. -/
structure Findings where
  result : Except Failure (List Issue)
  log : List Log.Record := []

namespace Findings

def ofIssues (issues : List Issue) (log : List Log.Record := []) : Findings :=
  { result := .ok issues, log }

/-- The issues, none where the check failed. -/
def issues (f : Findings) : List Issue :=
  match f.result with
  | .ok found => found
  | .error _ => []

end Findings

end SiteAudit
