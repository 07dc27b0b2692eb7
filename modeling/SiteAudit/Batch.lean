import SiteAudit.Findings
import SiteAudit.Markup.Nesting
import SiteAudit.Readers
import SiteAudit.References
import SiteAudit.Script.Check
import SiteAudit.Stylesheet.Balance
/-!
# Audits of whole batches

An audit has analyzers, each for the files with some extensions, and validators, each for a batch
as a whole.  Every file goes to the first analyzer that supports it, then every validator sees all
files.  A component that fails adds one issue of its own and disturbs no other.

* `Audit.issues` is the merged list of issues, `Audit.respond` the response with its tally.
* `discoverAnalyzers` and `discoverValidators` choose among the built-in components by name.
-/
namespace SiteAudit

/-- A check of single files.  See SPEC_FULL.md:61-64. -/
structure Analyzer where
  name : String
  extensions : List String
  check : SourceFile → Findings

def Analyzer.supports (a : Analyzer) (path : String) : Bool :=
  a.extensions.contains (extension path)

/-- A check of a whole batch.  See SPEC_FULL.md:127. -/
structure Validator where
  name : String
  check : List SourceFile → Findings

/-- The components that a batch goes through, in order. -/
structure Audit where
  analyzers : List Analyzer
  validators : List Validator

namespace Audit

/-- The issue that stands for the failure of a component.  See SPEC_FULL.md:182-185. -/
def internalError (path component : String) (failure : Failure) : Issue :=
  { message := component ++ " failed: " ++ failure.text, path, line := 1, column := 0
    severity := .error, rule := Rule.internalError, source := component }

/-- The issues of a component's findings. -/
def contributed (path component : String) (found : Findings) : List Issue :=
  match found.result with
  | .ok issues => issues
  | .error failure => [internalError path component failure]

/-- The analyzer for a path: the first that supports it. -/
def analyzerFor (audit : Audit) (path : String) : Option Analyzer :=
  audit.analyzers.find? (·.supports path)

def fileIssues (audit : Audit) (file : SourceFile) : List Issue :=
  match audit.analyzerFor file.path with
  | none => []
  | some a => contributed file.path a.name (a.check file)

def batchIssues (files : List SourceFile) (v : Validator) : List Issue :=
  contributed "" v.name (v.check files)

/-- All issues of a batch: by file, then by validator.  See SPEC_FULL.md:176-181. -/
def issues (audit : Audit) (files : List SourceFile) : List Issue :=
  files.flatMap audit.fileIssues ++ audit.validators.flatMap (batchIssues files)

def respond (audit : Audit) (files : List SourceFile) : Response :=
  { lint := .ofIssues (audit.issues files) }

/-! ## The log of an audit -/

/-- The name that audits write their own records under. -/
def component : String := "orchestrator"

def failureRecord (found : Findings) (message : String) : List Log.Record :=
  match found.result with
  | .ok _ => []
  | .error _ => [{ level := .error, component, message }]

def fileLog (audit : Audit) (file : SourceFile) : List Log.Record :=
  match audit.analyzerFor file.path with
  | none => [{
      level := .debug, component, message := "No analyzer for " ++ file.path ++ "; skipping" }]
  | some a =>
    let found := a.check file
    found.log ++ failureRecord found ("Analyzer " ++ a.name ++ " failed on " ++ file.path)

def batchLog (files : List SourceFile) (v : Validator) : List Log.Record :=
  let found := v.check files
  found.log ++ failureRecord found ("Validator " ++ v.name ++ " failed")

/-- Everything that an audit of a batch writes to the log. -/
def log (audit : Audit) (files : List SourceFile) : List Log.Record :=
  let t := (audit.respond files).lint.tally
  files.flatMap audit.fileLog ++ audit.validators.flatMap (batchLog files) ++
    [{ level := .info, component
       message := "Analyzed " ++ toString files.length ++ " file(s): " ++ toString t.errors ++
        " error(s), " ++ toString t.warnings ++ " warning(s), " ++ toString t.infos ++ " info" }]

end Audit

/-! ## Built-in components -/

def scriptAnalyzer (parse : Script.Parse) : Analyzer where
  name := "script"
  extensions := [".js", ".mjs"]
  check := Script.checkWith parse

def markupAnalyzer : Analyzer where
  name := "markup"
  extensions := [".html", ".htm"]
  check := Markup.check

def stylesheetAnalyzer : Analyzer where
  name := "stylesheet"
  extensions := [".css"]
  check := Stylesheet.check

/-- The analyzers over a parser of scripts, in the order in which they are asked. -/
def analyzersOver (parse : Script.Parse) : List Analyzer :=
  [scriptAnalyzer parse, markupAnalyzer, stylesheetAnalyzer]

def builtInAnalyzers : List Analyzer := analyzersOver Readers.builtIn.script

/-- Every extension that a built-in analyzer supports. -/
def supportedExtensions : List String := builtInAnalyzers.flatMap (·.extensions)

def referenceValidator (ignore : List Pattern.Compiled) : Validator where
  name := "style-markup"
  check := References.check ignore References.readingOf

def builtInValidatorNames : List String := ["style-markup"]

inductive DiscoveryFault where
  | unknownAnalyzers (names : List String)
  | unknownValidators (names : List String)
  | badPattern (fault : Pattern.Fault)
  deriving DecidableEq, Repr

def DiscoveryFault.message : DiscoveryFault → String
  | unknownAnalyzers names => "Unknown analyzers requested: " ++ ", ".intercalate names
  | unknownValidators names => "Unknown validators requested: " ++ ", ".intercalate names
  | badPattern fault => fault.message

/-- The names asked for that are not known, each once, in order of code points. -/
def unknownNames (known asked : List String) : List String :=
  ((asked.eraseDups.filter (fun n => !known.contains n)).mergeSort (fun a b => decide (a ≤ b)))

/-- The analyzers over a parser of scripts, or those whose names are asked for, in any case.  See
SPEC_FULL.md:120-123. -/
def discoverAnalyzers (parse : Script.Parse) (enabled : Option (List String)) :
    Except DiscoveryFault (List Analyzer) :=
  let analyzers := analyzersOver parse
  match enabled with
  | none => .ok analyzers
  | some names =>
    let asked := names.map Text.lowerString
    match unknownNames (analyzers.map (·.name)) asked with
    | [] => .ok (analyzers.filter (fun a => asked.contains a.name))
    | unknown => .error (.unknownAnalyzers unknown)

/-- Reads patterns; the first bad one is reported. -/
def compilePatterns (charNames : Pattern.CharNames) (patterns : List String) :
    Except DiscoveryFault (List Pattern.Compiled) :=
  patterns.mapM (fun p => (Pattern.compile charNames p.toList).mapError .badPattern)

/-- The built-in validators, or those whose names are asked for.  Patterns are read only when a
validator needs them.  See SPEC_FULL.md:169-170. -/
def discoverValidators (charNames : Pattern.CharNames) (enabled : Option (List String))
    (ignore : List String) : Except DiscoveryFault (List Validator) :=
  match enabled with
  | none => (compilePatterns charNames ignore).map (fun ps => [referenceValidator ps])
  | some names =>
    let asked := names.map Text.lowerString
    match unknownNames builtInValidatorNames asked with
    | [] =>
      if asked.contains "style-markup" then
        (compilePatterns charNames ignore).map (fun ps => [referenceValidator ps])
      else .ok []
    | unknown => .error (.unknownValidators unknown)

/-- The audit with all components, over a parser of scripts and with patterns of names to ignore. -/
def Audit.over (parse : Script.Parse) (ignore : List Pattern.Compiled) : Audit where
  analyzers := analyzersOver parse
  validators := [referenceValidator ignore]

def Audit.default : Audit := .over Readers.builtIn.script []

def Audit.ofSettings (readers : Readers) (analyzers validators : Option (List String))
    (ignore : List String) : Except DiscoveryFault Audit := do
  let analyzers ← discoverAnalyzers readers.script analyzers
  let validators ← discoverValidators readers.charNames validators ignore
  return { analyzers, validators }

end SiteAudit
