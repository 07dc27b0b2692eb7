import SiteAudit.Decimal.Shortest
import SiteAudit.Disk.Text
import SiteAudit.SourceFile
import SiteAudit.Yaml.Value
/-!
# Settings

The settings of an audit stand in a YAML file beside the files that are audited.  They choose
analyzers and validators, allow class names, and leave paths out of the scan.

* `Settings.ofDocument` picks the settings out of a document; what has another shape counts as
  absent.
* `Settings.load` finds the file for a path, reads it, and falls back to the defaults without one.
-/
namespace SiteAudit

/-- What an audit is asked to do.  See SPEC_FULL.md:193-201. -/
structure Settings where
  /-- The full name of the directory that the settings belong to. -/
  root : String
  /-- The analyzers asked for; nothing means all of them. -/
  analyzers : Option (List String) := none
  /-- The validators asked for; nothing means all of them. -/
  validators : Option (List String) := none
  /-- Patterns of class names that need no definition. -/
  ignoreClasses : List String := []
  /-- Patterns of paths that are left out. -/
  excludePaths : List String := []
  deriving DecidableEq, Repr

namespace Settings

def fileName : String := ".webcheck.yml"

inductive Fault where
  | unreadable (fault : ReadFault)
  /-- The text of the named file is no document. -/
  | malformed (name : String) (text : List Char) (fault : Yaml.Fault)
  /-- A scalar that its kind does not admit. -/
  | badValue (fault : Yaml.ValueFault)
  | notMapping
  | linkLoop (path : String)

def Fault.message : Fault → String
  | unreadable fault => fault.message
  | malformed name text fault => "Failed to parse " ++ name ++ ": " ++ fault.message text
  | badValue fault => fault.message
  | notMapping => fileName ++ " must contain a mapping at the root"
  | linkLoop path => "Symlink loop from " ++ Text.Quoted.quoteString path

/-- The text of a whole number, if it is not too long to be written out. -/
def intText (n : Int) : Except Fault String :=
  if Text.maxDigits < (toString n.natAbs).length then
    .error (.badValue (.bad ("Exceeds the limit (" ++ toString Text.maxDigits ++
      " digits) for integer string conversion; use sys.set_int_max_str_digits() to increase " ++
      "the limit")))
  else .ok (toString n)

/-- The text of a plain value in a list; nothing for any other value. -/
def itemText? : Yaml.Value → Except Fault (Option String)
  | .truth b => .ok (some (if b then "True" else "False"))
  | .int n => (intText n).map some
  | .float x => .ok (some (Decimal.floatText x))
  | .text s => .ok (some s)
  | _ => .ok none

/-- A list of texts: one text stands for itself, of a sequence the plain items count, and anything
else is no text at all. -/
def textList (d : Yaml.Document) : Option Yaml.Value → Except Fault (List String)
  | some (.text s) => .ok [s]
  | some (.bytes bs) => .ok (bs.map toString)
  | some (.collection number) =>
    match d.collections.lookup number with
    | some (.sequence items) => items.filterMapM itemText?
    | _ => .ok []
  | _ => .ok []

/-- The list under a key of a section; nothing where the key is absent. -/
def enabledIn (d : Yaml.Document) (part : Option Yaml.Value) :
    Except Fault (Option (List String)) :=
  (part.bind (d.get? · "enabled")).mapM (fun v => textList d (some v))

def ofDocument (root : String) (d : Yaml.Document) : Except Fault Settings :=
  match d.root with
  | .null => .ok { root }
  | v =>
    match d.collection? v with
    | some (.mapping _) => do
      let chosen := d.get? v "validators"
      let analyzers ← enabledIn d (d.get? v "analyzers")
      let validators ← enabledIn d chosen
      let ignoreClasses ← textList d (chosen.bind (d.get? · "ignore_classes"))
      let excludePaths ← textList d (d.get? v "exclude_paths")
      return { root, analyzers, validators, ignoreClasses, excludePaths }
    | _ => .error .notMapping

def ofText (read : Yaml.Read) (root name : String) (text : List Char) : Except Fault Settings :=
  if (Text.trim text).isEmpty then .ok { root }
  else match read text with
    | .ok d => ofDocument root d
    | .error (.value fault) => .error (.badValue fault)
    | .error fault => .error (.malformed name text fault)

/-- The path of the settings file for a path: in a directory, itself if it is such a file, and
beside any other file. -/
def filePath (disk : Disk) (p : Path) : Path :=
  if disk.isDirectoryAt p then
    match p with
    | .below absolute parts => .below absolute (parts ++ [fileName])
    | .elsewhere text => .elsewhere (text ++ "/" ++ fileName)
  else match p with
    | .below absolute parts =>
      let ending := String.ofList (suffix (parts.getLast?.getD "").toList)
      if [".yml", ".yaml"].contains ending then p
      else .below absolute (parts.dropLast ++ [fileName])
    | .elsewhere text => .elsewhere text

/-- Why a path cannot be looked up. -/
def tooLong (disk : Disk) (p : Path) : Fault := .unreadable (.path .nameTooLong (disk.shown p))

/-- The settings that stand at the place of a settings file. -/
def loadFrom (read : Yaml.Read) (disk : Disk) (parts : List String) : Except Fault Settings :=
  let root := disk.fullName parts.dropLast
  let place := Path.below true parts
  match disk.entry? parts with
  | none => if disk.isTooLong place then .error (tooLong disk place) else .ok { root }
  | some _ =>
    match disk.readText place with
    | .error fault => .error (.unreadable fault)
    | .ok text => ofText read root (parts.getLast?.getD "") text

/-- The settings for a path.  See SPEC_FULL.md:202-204. -/
def load (read : Yaml.Read) (disk : Disk) (p : Path) : Except Fault Settings :=
  if disk.isTooLong p then .error (tooLong disk p)
  else
    let file := filePath disk p
    match disk.realParts file with
    | .error .tooManyLinks => .error (.linkLoop (disk.shown file))
    | .error .nameTooLong => .error (tooLong disk file)
    | .error _ => .ok { root := disk.shown file }
    | .ok parts => loadFrom read disk parts

end Settings

end SiteAudit
