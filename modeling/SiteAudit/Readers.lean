import SiteAudit.Pattern.CharName
import SiteAudit.Script.Check
import SiteAudit.Script.Parser
import SiteAudit.Yaml.Value
/-!
# Readers that audits rest on

Audits leave three things to readers of their own: documents of settings, scripts, and the names of
characters in patterns.  What is said of audits holds whatever these readers make of a text.
-/
namespace SiteAudit

/-- What an audit reads texts with. -/
structure Readers where
  settings : Yaml.Read
  script : Script.Parse
  charNames : Pattern.CharNames

def Readers.builtIn : Readers where
  settings := Yaml.Document.ofText
  script := Script.parse
  charNames := Pattern.charNamed?

end SiteAudit
