import SiteAudit.Text.Blank
import SiteAudit.Scan.Glob
/-!
# Exclusions

Lines in the manner of an ignore file decide which paths are left out of a scan.  A line is a glob;
`!` in front brings paths back, a slash at the end restricts it to directories, and a slash
elsewhere ties it to the root of the scan.  Without such a slash the glob may also begin behind any
slash of the path.

* `Exclusion.ofLine?` reads a line; blank lines and comments give nothing.
* `isExcluded`: the last exclusion that applies and matches decides.
-/
namespace SiteAudit.Scan

open Text

/-- A line of an ignore file. -/
structure Exclusion where
  glob : Glob
  /-- Whether the glob may also begin behind a slash of the path. -/
  anyDepth : Bool
  directoryOnly : Bool
  reinclude : Bool
  deriving DecidableEq, Repr

/-- The texts behind the slashes of a path, as far as its first line goes. -/
def behindSlashes : List Char → List (List Char)
  | [] => []
  | c :: r =>
    if c = '\n' then [] else if c = '/' then r :: behindSlashes r else behindSlashes r

namespace Exclusion

def ofLine? (line : List Char) : Option Exclusion :=
  let pattern := trim line
  if pattern.isEmpty || pattern.head? == some '#' then none
  else
    let reinclude := pattern.head? == some '!'
    let pattern := trimStartBy (· == '!') pattern
    let core := trimBy (· == '/') pattern
    if core.isEmpty then none
    else some {
      glob := Glob.read core
      anyDepth := !(trimEndBy (· == '/') pattern).contains '/'
      directoryOnly := pattern.getLast? == some '/'
      reinclude }

def accepts (e : Exclusion) (path : List Char) : Bool :=
  e.glob.accepts path || (e.anyDepth && (behindSlashes path).any e.glob.accepts)

/-- Whether an exclusion says anything about a path. -/
def applies (e : Exclusion) (path : List Char) (isDirectory : Bool) : Bool :=
  (!e.directoryOnly || isDirectory) && e.accepts path

end Exclusion

def exclusionsOf (lines : List (List Char)) : List Exclusion := lines.filterMap Exclusion.ofLine?

/-- Whether a path is left out: the last exclusion that applies decides.  See
SPEC_FULL.md:210-211. -/
def isExcluded (exclusions : List Exclusion) (path : List Char) (isDirectory : Bool) : Bool :=
  exclusions.foldl
    (fun out e => if e.applies path isDirectory then !e.reinclude else out) false

end SiteAudit.Scan
