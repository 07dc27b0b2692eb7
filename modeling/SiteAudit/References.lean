import SiteAudit.Markup.GeneratedName
import SiteAudit.Markup.Usage
import SiteAudit.Pattern.Match
import SiteAudit.Stylesheet.Selectors
/-!
# References from markup to stylesheets

Across a batch of files, every class and id that markup uses should be defined in some stylesheet
or style block of the batch.  All definitions are gathered before any usage is judged, so the order
of the files does not matter.  Generated class names and those that match a pattern to ignore are
not reported.
-/
namespace SiteAudit.References

open Markup Stylesheet

def isSheet (path : String) : Bool := hasEnding [".css"] path

def isMarkup (path : String) : Bool := hasEnding [".html", ".htm"] path

/-- Adds what one file defines. -/
def addFile (d : Definitions) (file : SourceFile) : Definitions :=
  let d := if isSheet file.path then d.addSheet file.content.toList else d
  if isMarkup file.path then d.addMarkup file.content.toList else d

def definitions (files : List SourceFile) : Definitions := files.foldl addFile {}

/-- The name that issues of this check carry as their source. -/
def source : String := "html-css-validator"

/-- Whether a usage has no definition and is not to be ignored.  See SPEC_FULL.md:148-165. -/
def isUndefined (d : Definitions) (ignore : List Pattern.Compiled) (u : Usage) : Bool :=
  match u.kind with
  | .cls =>
    !d.classes.contains u.name && !isGeneratedName u.name &&
      !ignore.any (fun p => p.search u.name.toList)
  | .id => !d.ids.contains u.name

def usageIssue (u : Usage) : Issue :=
  let (word, rule) := match u.kind with
    | .cls => ("class", Rule.classUndefined)
    | .id => ("ID", Rule.idUndefined)
  { message := "CSS " ++ word ++ " \"" ++ u.name ++ "\" is used but not defined in any CSS file"
    path := u.path, line := u.line, column := 0, severity := .warning, rule, source }

/-- How a document is read; reading may be replaced to study failures. -/
abbrev Read := SourceFile → Reading

/-- Reads a file's own text. -/
def readingOf : Read := fun file => .ofText file.content

/-- The usages of all markup files of a batch, in order. -/
def allUsages (read : Read) (files : List SourceFile) : List Usage :=
  (files.filter (fun f => isMarkup f.path)).flatMap (fun f => usages f.path (read f))

def issues (ignore : List Pattern.Compiled) (read : Read) (files : List SourceFile) : List Issue :=
  let d := definitions files
  ((allUsages read files).filter (isUndefined d ignore)).map usageIssue

def check (ignore : List Pattern.Compiled) (read : Read) (files : List SourceFile) : Findings :=
  let d := definitions files
  let found := issues ignore read files
  let component := "validators.style_markup"
  let failures := (files.filter (fun f => isMarkup f.path)).filterMap (fun f =>
    (read f).failure.map (fun failure =>
      { level := .debug, component
        message := "Ignoring parse failure in " ++ f.path ++ ": " ++ failure.text }))
  .ofIssues found (failures ++ [{
    level := .debug, component
    message := "Checked " ++ toString (allUsages read files).length ++
      " selector usage(s) against " ++ toString d.classes.length ++ " class(es) and " ++
      toString d.ids.length ++ " id(s): " ++ toString found.length ++ " issue(s)" }])

end SiteAudit.References
