import SiteAudit.Batch
import SiteAudit.Disk.Text
import SiteAudit.Scan.Exclusion
/-!
# Scans

A scan collects the files below a directory that the checks can handle.  It walks real directories
only, leaves out some by name and others by exclusion, and reads what is left.

* `Scanner.found` lists the paths in order: the files of a directory by name, then its directories
  by name.
* A file that cannot be read is left out, and the log says so.
-/
namespace SiteAudit.Scan

open Text

/-- Directories that are never walked. -/
def skippedDirectories : List String :=
  [".git", ".hg", ".svn", ".venv", "node_modules", "__pycache__", ".pytest_cache", ".mypy_cache",
   ".idea"]

/-- What a scan looks for. -/
structure Scanner where
  exclusions : List Exclusion
  extensions : List String

/-- A file met on the walk: its path from the root of the scan, and the parts of it. -/
abbrev Found := List String

/-- The path of an entry in the directory with the given parts. -/
def joinPath (here : List String) (name : String) : List Char :=
  ("/".intercalate (here ++ [name])).toList

def sortByName {α : Type} (xs : List (String × α)) : List (String × α) :=
  xs.mergeSort (fun a b => decide (a.1 ≤ b.1))

namespace Scanner

/-- Whether the walk goes into a directory. -/
def enters (s : Scanner) (here : List String) (name : String) : Bool :=
  !skippedDirectories.contains name && !isExcluded s.exclusions (joinPath here name) true

/-- Whether a file is of interest. -/
def wants (s : Scanner) (here : List String) (name : String) : Bool :=
  !isExcluded s.exclusions (joinPath here name) false &&
    s.extensions.contains (lowerString (String.ofList (suffix name.toList)))

/-- The files of interest directly in a directory; `leadsToDirectory` tells of a link whether it
leads to a directory. -/
def filesHere (s : Scanner) (leadsToDirectory : List String → Bool) (here : List String)
    (es : List (String × Entry)) : List Found :=
  let names := es.filterMap (fun (name, e) =>
    match e with
    | .file _ => some (name, ())
    | .link _ => if leadsToDirectory (here ++ [name]) then none else some (name, ())
    | .directory _ => none)
  ((sortByName names).filter (fun f => s.wants here f.1)).map (fun f => here ++ [f.1])

/-- The files of interest in each directory that is entered, with its name. -/
def below (s : Scanner) (leadsToDirectory : List String → Bool) (here : List String) :
    List (String × Entry) → List (String × List Found)
  | [] => []
  | (name, .directory es) :: more =>
    let rest := below s leadsToDirectory here more
    if s.enters here name then
      let inner := here ++ [name]
      (name, filesHere s leadsToDirectory inner es ++
        (sortByName (below s leadsToDirectory inner es)).flatMap (·.2)) :: rest
    else rest
  | (_, .file _) :: more => below s leadsToDirectory here more
  | (_, .link _) :: more => below s leadsToDirectory here more

/-- The files of interest in a directory and below it, in order. -/
def found (s : Scanner) (leadsToDirectory : List String → Bool) (es : List (String × Entry)) :
    List Found :=
  filesHere s leadsToDirectory [] es ++ (sortByName (below s leadsToDirectory [] es)).flatMap (·.2)

end Scanner

/-! ## Scanning a disk -/

inductive Fault where
  | notFound (path : String)
  | linkLoop (path : String)
  | tooLong (path : String)
  | ignoreFile (fault : ReadFault)

def Fault.message : Fault → String
  | notFound path => "Path not found: " ++ path
  | linkLoop path => "Symlink loop from " ++ Quoted.quoteString path
  | tooLong path => PathFault.nameTooLong.message ++ ": " ++ Quoted.quoteString path
  | ignoreFile fault => fault.message

structure Outcome where
  files : List SourceFile
  log : List Log.Record

/-- The name that scans write their records under. -/
def component : String := "file_scanner"

/-- Reads one file, or notes that it cannot be read. -/
def readOne (disk : Disk) (root : List String) (name : List String) : SourceFile ⊕ Log.Record :=
  let path := "/".intercalate name
  match disk.readText (.below true (root ++ name)) with
  | .ok chars => .inl { path, content := String.ofList chars }
  | .error fault => .inr {
      level := .warning, component
      message := "Skipping unreadable file " ++ path ++ ": " ++ fault.message }

def readAll (disk : Disk) (root : List String) (names : List Found) : Outcome where
  files := names.filterMap (fun n => (readOne disk root n).getLeft?)
  log := names.filterMap (fun n => (readOne disk root n).getRight?)

def ignoreFileName : String := ".gitignore"

/-- The lines of the ignore file of a directory; none without one. -/
def ignoreLines (disk : Disk) (root : List String) : Except ReadFault (List (List Char)) :=
  let p := Path.below true (root ++ [ignoreFileName])
  match disk.follow p with
  | .ok (_, .file bytes) => (textOfBytes bytes).map boundaryLines
  | .error .nameTooLong => .error (.path .nameTooLong (disk.shown p))
  | _ => .ok []

/-- Scans the directory with the given parts. -/
def scanDirectory (disk : Disk) (root : List String) (es : List (String × Entry))
    (excludePaths extensions : List String) : Except Fault Outcome :=
  match ignoreLines disk root with
  | .error fault => .error (.ignoreFile fault)
  | .ok lines =>
    let s : Scanner := {
      exclusions := exclusionsOf (lines ++ excludePaths.map String.toList)
      extensions }
    let leadsToDirectory := fun name => disk.isDirectoryAt (.below true (root ++ name))
    let read := readAll disk root (s.found leadsToDirectory es)
    .ok { read with
      log := read.log ++ [{
        level := .debug, component
        message := "Collected " ++ toString read.files.length ++ " file(s) under " ++
          disk.fullName root }] }

/-- Scans what is at a path: a directory, or a single file whatever its extension.  See
SPEC_FULL.md:208-214. -/
def scan (disk : Disk) (path : Path) (excludePaths : List String)
    (extensions : List String := supportedExtensions) : Except Fault Outcome :=
  match disk.realParts path with
  | .error .tooManyLinks => .error (.linkLoop (disk.shown path))
  | .error .nameTooLong => .error (.tooLong (disk.shown path))
  | .error _ => .error (.notFound (disk.shown path))
  | .ok root =>
    match disk.entry? root with
    | none =>
      if disk.isTooLong (.below true root) then .error (.tooLong (disk.fullName root))
      else .error (.notFound (disk.shown path))
    | some (.directory es) =>
      scanDirectory disk root es excludePaths (extensions.map lowerString)
    | some _ => .ok (readAll disk root.dropLast [root.drop (root.length - 1)])

end SiteAudit.Scan
