import SiteAudit.Text.Blank
import SiteAudit.Text.LowerCase
/-!
# Source files

A file is a path and its text.  Its extension is what follows the last dot of the whole path, the
dot included, in lower case; the suffix of a file name is stricter and asks for something on both
sides of the dot.
-/
namespace SiteAudit

structure SourceFile where
  path : String
  content : String
  deriving DecidableEq, Repr

/-- The text from the last occurrence of `c` on, or nothing without one. -/
def fromLast (c : Char) (s : List Char) : List Char :=
  if s.contains c then c :: (s.reverse.takeWhile (· != c)).reverse else []

/-- The extension of a path, in lower case.  See SPEC_FULL.md:61-63. -/
def extension (path : String) : String :=
  String.ofList (Text.lower (fromLast '.' path.toList))

/-- The suffix of a file name: from its last dot, unless that dot is the first or the last
character. -/
def suffix (name : List Char) : List Char :=
  let s := fromLast '.' name
  if s.length ≤ 1 || s.length == name.length then [] else s

/-- Whether a path ends with one of the given texts. -/
def hasEnding (endings : List String) (path : String) : Bool :=
  endings.any (fun e => Text.endsWith e.toList path.toList)

end SiteAudit
