import SiteAudit.SourceFile
import SiteAudit.Findings
import SiteAudit.Tag.Lexer
/-!
# Nesting of tags

The events of a document open and close elements.  Each element that is open has a frame with the
line it was opened on; lines are counted in the text between the tags.

* An end tag that does not name the innermost frame is reported and dropped: the frames stay.
* What is open at the end is reported in the order in which it was opened.
* A document that cannot be read to its end adds one issue and loses nothing.
-/
namespace SiteAudit.Markup

open Tag

/-- An open element and the line of its start tag. -/
structure Frame where
  name : String
  line : Nat
  deriving DecidableEq, Repr

/-- How many line feeds a piece of text holds. -/
def newlinesIn (text : String) : Nat := Text.newlines text.toList

/-- What the check knows between two events. -/
structure Nest where
  line : Nat := 1
  /-- The open elements, the innermost first. -/
  frames : List Frame := []
  deriving DecidableEq, Repr

/-- A fault of nesting, before it is put into words. -/
inductive Stray where
  /-- An end tag with nothing open. -/
  | unexpected (name : String)
  /-- An end tag that names another element than the innermost. -/
  | mismatched (expected name : String)
  deriving DecidableEq, Repr

def Nest.after (n : Nest) : Event → Nest
  | .opened name _ =>
    if isVoid name then n else { n with frames := ⟨name, n.line⟩ :: n.frames }
  | .closed name =>
    if isVoid name then n
    else match n.frames with
      | [] => n
      | top :: rest => if top.name = name then { n with frames := rest } else n
  | .text data => { n with line := n.line + newlinesIn data }

/-- The fault that an event shows.  See SPEC_FULL.md:98-101. -/
def Nest.stray? (n : Nest) : Event → Option Stray
  | .closed name =>
    if isVoid name then none
    else match n.frames with
      | [] => some (.unexpected name)
      | top :: _ => if top.name = name then none else some (.mismatched top.name name)
  | _ => none

def Nest.run (n : Nest) : List Event → Nest
  | [] => n
  | e :: more => (n.after e).run more

/-- The faults of a sequence of events with their lines. -/
def Nest.strays (n : Nest) : List Event → List (Stray × Nat)
  | [] => []
  | e :: more => ((n.stray? e).map (·, n.line)).toList ++ (n.after e).strays more

/-- The name that issues of this check carry as their source. -/
def source : String := "html-parser"

def issueAt (path : String) (rule message : String) (line : Nat) : Issue :=
  { message, path, line, column := 0, severity := .error, rule, source }

def Stray.issue (path : String) (line : Nat) : Stray → Issue
  | .unexpected name =>
    issueAt path Rule.tagUnexpectedClose ("Unexpected closing tag </" ++ name ++ ">") line
  | .mismatched expected name =>
    issueAt path Rule.tagMismatch
      ("Mismatched closing tag: expected </" ++ expected ++ ">, found </" ++ name ++ ">") line

def Frame.issue (path : String) (f : Frame) : Issue :=
  issueAt path Rule.tagUnclosed ("Unclosed tag <" ++ f.name ++ ">") f.line

/-- A document as it was read: its calls, and the failure that ended the reading. -/
structure Reading where
  calls : List Call
  failure : Option Failure := none

/-- The failure that a fault of reading amounts to. -/
def failureOf (fault : LexFault) : Failure :=
  { kind := "UnreadableDocument", text := fault.message }

/-- Reads a complete document. -/
def Reading.ofText (text : String) : Reading :=
  let lexed := lex text.toList
  { calls := lexed.calls, failure := lexed.fault.map failureOf }

/-- Reads the beginning of a document and then fails. -/
def Reading.failing (text : String) (failure : Failure) : Reading :=
  let lexed := lexPartial text.toList
  { calls := lexed.calls, failure := some ((lexed.fault.map failureOf).getD failure) }

def failureIssue (path : String) (line : Nat) (failure : Failure) : Issue :=
  issueAt path Rule.markupParseError failure.summary line

def issues (path : String) (reading : Reading) : List Issue :=
  let es := events reading.calls
  let final := Nest.run {} es
  (Nest.strays {} es).map (fun (stray, line) => stray.issue path line) ++
    (reading.failure.map (failureIssue path final.line)).toList ++
    final.frames.reverse.map (Frame.issue path)

/-- The check of one document, given how it was read.  See SPEC_FULL.md:101-106. -/
def checkReading (path : String) (reading : Reading) : Findings :=
  let found := issues path reading
  let component := "analyzers.markup"
  .ofIssues found
    ((reading.failure.map (fun f =>
      { level := .debug, component
        message := "Markup parser failed on " ++ path ++ ": " ++ f.text })).toList ++
    [{ level := .debug, component
       message := "Markup " ++ path ++ ": " ++ toString found.length ++ " issue(s)" }])

def check (file : SourceFile) : Findings := checkReading file.path (.ofText file.content)

end SiteAudit.Markup
