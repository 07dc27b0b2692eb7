/-!
# Failures

A component may fail instead of answering.  A failure has a kind and a text; where the text is
empty the kind stands for it.
-/
namespace SiteAudit

/-- What a component that fails leaves behind. -/
structure Failure where
  kind : String
  text : String
  deriving DecidableEq, Repr

/-- The text of a failure, or its kind when there is none. -/
def Failure.summary (f : Failure) : String := if f.text = "" then f.kind else f.text

end SiteAudit
