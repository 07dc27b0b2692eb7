import SiteAudit.Findings
import SiteAudit.SourceFile
import SiteAudit.Script.Excerpt
import SiteAudit.Script.SyntaxNode
/-!
# The check of scripts

A script is parsed into a syntax tree, and the first fault of the tree is reported.  The parser is
a parameter here: whatever tree it gives or however it fails, there is at most one issue.
-/
namespace SiteAudit.Script

/-- The name that issues of this check carry as their source. -/
def source : String := "tree-sitter"

abbrev Parse := String → Except Failure SyntaxNode

def issueAt (file : SourceFile) (rule message : String) (line column : Nat) : Issue :=
  { message, path := file.path, line, column, severity := .error, rule, source }

def faultMessage (content : List Char) (n : SyntaxNode) : String :=
  if n.missing then "Missing `" ++ n.kind ++ "`"
  else "Syntax error near `" ++ String.ofList (excerpt n.start n.stop content) ++ "`"

/-- The issues of a script, given how it was parsed.  See SPEC_FULL.md:110-116. -/
def issuesOf (file : SourceFile) : Except Failure SyntaxNode → List Issue
  | .error failure => [issueAt file Rule.scriptParseError failure.summary 1 0]
  | .ok root =>
    if !root.hasFault then []
    else match root.firstFault with
      | none => [issueAt file Rule.scriptSyntaxError "Syntax error" 1 0]
      | some n =>
        let content := file.content.toList
        let (line, column) := place n.row n.column content
        [issueAt file Rule.scriptSyntaxError (faultMessage content n) line column]

def checkWith (parse : Parse) (file : SourceFile) : Findings :=
  let parsed := parse file.content
  let log := match parsed with
    | .ok _ => []
    | .error failure => [{
        level := .debug, component := "analyzers.script"
        message := "tree-sitter failed on " ++ file.path ++ ": " ++ failure.text }]
  .ofIssues (issuesOf file parsed) log

end SiteAudit.Script
