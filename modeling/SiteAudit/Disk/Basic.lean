import SiteAudit.Text.Blank
/-!
# Directory trees

A disk is a directory with files, directories and symbolic links below it.  Paths are given as the
list of their parts; what lies above the top directory is unknown, and nothing is found there.
Names and whole paths have a greatest length.

* `Disk.entry?` follows no links, `Disk.follow` follows all of them.
* `Disk.isTooLong` tells of a path that it cannot be looked up.
* `Disk.realParts` gives the parts of the place that a path means, links replaced, also where
  nothing is there.
* `Entry.add` puts an entry into a tree and makes the directories above it.
-/
namespace SiteAudit

/-- What a name in a directory stands for. -/
inductive Entry where
  | file (bytes : List UInt8)
  | directory (entries : List (String × Entry))
  | link (target : String)
  deriving Repr

namespace Entry

/-- Replaces or adds an entry of a directory. -/
def put (name : String) (e : Entry) : List (String × Entry) → List (String × Entry)
  | [] => [(name, e)]
  | (n, old) :: more => if n = name then (n, e) :: more else (n, old) :: put name e more

/-- The entries of a directory; none for anything else. -/
def entries : Entry → List (String × Entry)
  | directory es => es
  | _ => []

/-- Puts `e` at the place given by its parts, below the given entries. -/
def add (e : Entry) : List String → List (String × Entry) → List (String × Entry)
  | [], es => es
  | [name], es => put name e es
  | name :: more, es =>
    put name (.directory (add e more (((es.lookup name).map entries).getD []))) es

def isDirectory : Entry → Bool
  | directory _ => true
  | _ => false

end Entry

inductive PathFault where
  | missing
  | notDirectory
  | isDirectory
  | tooManyLinks
  | nameTooLong
  deriving DecidableEq, Repr

def PathFault.message : PathFault → String
  | missing => "[Errno 2] No such file or directory"
  | notDirectory => "[Errno 20] Not a directory"
  | isDirectory => "[Errno 21] Is a directory"
  | tooManyLinks => "[Errno 40] Too many levels of symbolic links"
  | nameTooLong => "[Errno 36] File name too long"

/-- A directory with everything below it, which is also the place that relative paths start at. -/
structure Disk where
  /-- The full name of the top directory. -/
  top : String
  entries : List (String × Entry) := []
  /-- Home directories by the names of users; the empty name stands for whoever asks. -/
  homes : List (String × String) := []

/-- A path: below the top directory, or somewhere unknown. -/
inductive Path where
  | below (absolute : Bool) (parts : List String)
  | elsewhere (text : String)
  deriving DecidableEq, Repr

/-- The parts of a path: empty parts and single dots say nothing. -/
def partsOf (text : String) : List String :=
  ((Text.splitOn '/' text.toList).map String.ofList).filter (fun p => p != "" && p != ".")

namespace PathFault

def maxName : Nat := 255

def maxPath : Nat := 4095

/-- What is wrong with a name that stands for nothing. -/
def ofName (name : String) : PathFault :=
  if maxName < name.utf8ByteSize then nameTooLong else missing

/-- What is wrong with a path that leads to where nothing is known. -/
def ofElsewhere (text : String) : PathFault :=
  if (partsOf text).any (maxName < ·.utf8ByteSize) then nameTooLong else missing

end PathFault

namespace Disk

def path (disk : Disk) (text : String) : Path :=
  if text = disk.top then .below true []
  else if text.startsWith (disk.top ++ "/") then
    .below true (partsOf (text.drop (disk.top.length + 1)).toString)
  else if text.startsWith "/" then .elsewhere text
  else .below false (partsOf text)

/-- The path that is meant by one that may begin with a tilde, which stands for a home directory;
nothing where that home is not known. -/
def expand? (disk : Disk) : Path → Option Path
  | .below false (first :: more) =>
    match first.toList with
    | '~' :: user =>
      (disk.homes.lookup (String.ofList user)).map (fun home =>
        disk.path ("/".intercalate (home :: more)))
    | _ => some (.below false (first :: more))
  | p => some p

def fullName (disk : Disk) (parts : List String) : String := "/".intercalate (disk.top :: parts)

def shown (disk : Disk) : Path → String
  | .below true parts => disk.fullName parts
  | .below false [] => "."
  | .below false parts => "/".intercalate parts
  | .elsewhere text => text

/-- The entry with the given parts, links not followed. -/
def entryIn? : List (String × Entry) → List String → Option Entry
  | es, [] => some (.directory es)
  | es, [name] => es.lookup name
  | es, name :: more =>
    match es.lookup name with
    | some (.directory inner) => entryIn? inner more
    | _ => none

def entry? (disk : Disk) (parts : List String) : Option Entry := entryIn? disk.entries parts

/-- The most links that one path may lead through. -/
def maxLinks : Nat := 40

/-- The most links that are replaced in one path; more than that lead in a circle. -/
def maxReplaced : Nat := 10000

/-- Where a link leads from the directory `here`. -/
def linkParts? (disk : Disk) (here : List String) (target : String) :
    Option (List String × List String) :=
  match disk.path target with
  | .below true parts => some ([], parts)
  | .below false parts => some (here, parts)
  | .elsewhere _ => none

/-- Goes from the place `here` along `parts` and through at most `links` links; gives the place
reached and what is there. -/
def followFrom (disk : Disk) (links : Nat) (here : List String) :
    List String → Except PathFault (List String × Entry)
  | [] =>
    match disk.entry? here with
    | some e => .ok (here, e)
    | none => .error .missing
  | name :: more =>
    match disk.entry? here with
    | some (.directory es) =>
      if name = ".." then
        if here.isEmpty then .error .missing else followFrom disk links here.dropLast more
      else match es.lookup name with
        | some (.link target) =>
          match links, linkParts? disk here target with
          | 0, _ => .error .tooManyLinks
          | _, none => .error (.ofElsewhere target)
          | k + 1, some (start, parts) => followFrom disk k start (parts ++ more)
        | some _ => followFrom disk links (here ++ [name]) more
        | none => .error (.ofName name)
    | some _ => .error .notDirectory
    | none => .error .missing
termination_by parts => (links, parts.length)

/-- What is at a path, all links followed. -/
def follow (disk : Disk) : Path → Except PathFault (List String × Entry)
  | .below _ parts => followFrom disk maxLinks [] parts
  | .elsewhere text => .error (.ofElsewhere text)

/-- Whether a path is too long to be looked up, as a whole or in a name that is not there. -/
def isTooLong (disk : Disk) (p : Path) : Bool :=
  PathFault.maxPath < (disk.shown p).utf8ByteSize ||
    match disk.follow p with
    | .error .nameTooLong => true
    | _ => false

/-- The parts of the place that a path means; where nothing is there the names are kept. -/
def realFrom (disk : Disk) (links : Nat) (here : List String) :
    List String → Except PathFault (List String)
  | [] => .ok here
  | name :: more =>
    if name = ".." then realFrom disk links here.dropLast more
    else match disk.entry? (here ++ [name]) with
      | some (.link target) =>
        match links, linkParts? disk here target with
        | 0, _ => .error .tooManyLinks
        | _, none => .error (.ofElsewhere target)
        | k + 1, some (start, parts) => realFrom disk k start (parts ++ more)
      | _ => realFrom disk links (here ++ [name]) more
termination_by parts => (links, parts.length)

/-- The place that a path means, or nothing for a path that leads elsewhere. -/
def realParts (disk : Disk) : Path → Except PathFault (List String)
  | .below _ parts => realFrom disk maxReplaced [] parts
  | .elsewhere text => .error (.ofElsewhere text)

def isDirectoryAt (disk : Disk) (p : Path) : Bool :=
  match disk.follow p with
  | .ok (_, e) => e.isDirectory
  | .error _ => false

def readBytes (disk : Disk) (p : Path) : Except PathFault (List UInt8) :=
  match disk.follow p with
  | .error fault => .error fault
  | .ok (_, .file bytes) => .ok bytes
  | .ok (_, _) => .error .isDirectory

end Disk

end SiteAudit
