import SiteAudit.Text.Blank
import SiteAudit.SourceFile
import SiteAudit.Findings
/-!
# Balance of braces, comments and strings in stylesheets

A stylesheet is scanned line by line for one question only: are its braces, comments and quoted
strings balanced?  The scan is in one of three modes, so it is never inside a comment and a string
at once, and it keeps the number of open braces.

* `scanLine` reads one line, `scanLines` a whole file.
* A closing brace with nothing open is reported where it stands, and the count stays at zero.
* What is still open at the end of the file is reported on its last line.
-/
namespace SiteAudit.Stylesheet

/-- Where the scan stands. -/
inductive Mode where
  | code
  | comment
  /-- Inside a string that `quote` opened; `escaped` right after a backslash of the same line. -/
  | string (quote : Char) (escaped : Bool)
  deriving DecidableEq, Repr

structure Scan where
  depth : Nat := 0
  mode : Mode := .code
  deriving DecidableEq, Repr

/-- The place of a character in a file: lines from 1, columns from 0. -/
structure Place where
  line : Nat
  column : Nat
  deriving DecidableEq, Repr

/-- Both quotes open a string. -/
def isQuote (c : Char) : Bool := c == '"' || c == '\''

/-- Reads the rest of line `line` from column `column`, and gives the unexpected closing braces and
the state at the end of the line.  See SPEC_FULL.md:69-74. -/
def scanLine (line column : Nat) : Scan → List Char → List Place × Scan
  | s, [] => ([], s)
  | ⟨depth, .code⟩, '/' :: '*' :: r => scanLine line (column + 2) ⟨depth, .comment⟩ r
  | ⟨depth, .comment⟩, '*' :: '/' :: r => scanLine line (column + 2) ⟨depth, .code⟩ r
  | ⟨depth, .comment⟩, _ :: r => scanLine line (column + 1) ⟨depth, .comment⟩ r
  | ⟨depth, .string q escaped⟩, c :: r =>
    if c = q ∧ escaped = false then scanLine line (column + 1) ⟨depth, .code⟩ r
    else scanLine line (column + 1) ⟨depth, .string q (c == '\\')⟩ r
  | ⟨depth, .code⟩, c :: r =>
    if isQuote c then scanLine line (column + 1) ⟨depth, .string c false⟩ r
    else if c = '{' then scanLine line (column + 1) ⟨depth + 1, .code⟩ r
    else if c = '}' then
      if depth = 0 then
        let (found, s) := scanLine line (column + 1) ⟨0, .code⟩ r
        (⟨line, column⟩ :: found, s)
      else scanLine line (column + 1) ⟨depth - 1, .code⟩ r
    else scanLine line (column + 1) ⟨depth, .code⟩ r

/-- The state at the start of the next line: a backslash protects nothing across a line end. -/
def Scan.nextLine (s : Scan) : Scan :=
  match s.mode with
  | .string q _ => { s with mode := .string q false }
  | _ => s

/-- Reads lines, the first of which has the number `line`. -/
def scanLines (line : Nat) : Scan → List (List Char) → List Place × Scan
  | s, [] => ([], s)
  | s, text :: more =>
    let (found, s) := scanLine line 0 s text
    let (later, s) := scanLines (line + 1) s.nextLine more
    (found ++ later, s)

/-- The name that issues of this check carry as their source. -/
def source : String := "stylesheet-analyzer"

def issueAt (file : SourceFile) (rule message : String) (line : Nat) (column : Nat := 0) : Issue :=
  { message, path := file.path, line, column, severity := .error, rule, source }

/-- What is open at the end of the file, reported on line `last`.  See SPEC_FULL.md:76-82. -/
def endIssues (file : SourceFile) (last : Nat) (s : Scan) : List Issue :=
  (if 0 < s.depth then
    [issueAt file Rule.braceUnclosed
      ("Unclosed brace: " ++ toString s.depth ++ " opening brace(s) without matching close") last]
   else []) ++
  (match s.mode with
   | .code => []
   | .comment => [issueAt file Rule.commentUnclosed "Unclosed comment" last]
   | .string .. => [issueAt file Rule.stringUnclosed "Unclosed string" last])

/-- The balance issues of a stylesheet, in the order of their places. -/
def issues (file : SourceFile) : List Issue :=
  let lines := Text.splitOn '\n' file.content.toList
  let (found, s) := scanLines 1 {} lines
  found.map (fun p =>
    issueAt file Rule.braceUnexpected "Unexpected closing brace" p.line p.column) ++
  endIssues file lines.length s

def check (file : SourceFile) : Findings :=
  let found := issues file
  .ofIssues found [{
    level := .debug, component := "analyzers.stylesheet"
    message := "Stylesheet " ++ file.path ++ ": " ++ toString found.length ++ " issue(s)" }]

end SiteAudit.Stylesheet
