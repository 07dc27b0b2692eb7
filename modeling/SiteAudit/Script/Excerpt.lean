import SiteAudit.Text.Blank
import SiteAudit.Text.Utf8
/-!
# Places and excerpts of scripts

Syntax trees give places in bytes.  Reports give columns in characters, and an excerpt of the text
in question.

* `place` gives the line and column of a row and a byte column: the characters that end at or before
  it count.
* `excerpt` is the first line of the text between two byte offsets, cut to a limit.
-/
namespace SiteAudit.Script

open Text

/-- The line and column of a place given by its row and its column in bytes.  A row behind the
last line has column 0. -/
def place (row column : Nat) (content : List Char) : Nat × Nat :=
  match (splitOn '\n' content)[row]? with
  | none => (row + 1, 0)
  | some line => (row + 1, (Utf8.decodeSkipping ((Utf8.encode line).take column)).length)

/-- The longest excerpt. -/
def excerptLimit : Nat := 40

/-- Cuts a line that is longer than the limit, and marks the cut. -/
def shorten (line : List Char) : List Char :=
  if excerptLimit < line.length then
    trimEnd (line.take (excerptLimit - 3)) ++ ['.', '.', '.']
  else line

/-- The text between two byte offsets; characters that are cut are left out. -/
def between (start stop : Nat) (content : List Char) : List Char :=
  Utf8.decodeSkipping (((Utf8.encode content).drop start).take (stop - start))

/-- An excerpt of the text between two byte offsets, in one line. -/
def excerpt (start stop : Nat) (content : List Char) : List Char :=
  shorten (upTo '\n' (trim (between start stop content)))

end SiteAudit.Script
