import SiteAudit.Markup.Nesting
/-!
# Classes and ids that markup uses

Every start tag uses the classes listed in its class attribute and the id in its id attribute.
Lines are counted as for the nesting of tags, so a usage has the line that a frame opened by the
same tag would have.
-/
namespace SiteAudit.Markup

open Tag

/-- What a usage refers to. -/
inductive SelectorKind where
  | cls
  | id
  deriving DecidableEq, Repr

def SelectorKind.word : SelectorKind → String
  | cls => "class"
  | id => "id"

/-- A class or id that a start tag refers to. -/
structure Usage where
  name : String
  kind : SelectorKind
  path : String
  line : Nat
  deriving DecidableEq, Repr

/-- The usages of one start tag: its classes in the order written, then its id.  See
SPEC_FULL.md:142-144. -/
def tagUsages (path : String) (line : Nat) (attributes : List (String × String)) : List Usage :=
  let classes := match attributes.lookup "class" with
    | some value =>
      (Text.words value.toList).map (fun w => { name := String.ofList w, kind := .cls, path, line })
    | none => []
  let ids := match attributes.lookup "id" with
    | some value => if value = "" then [] else [{ name := value, kind := .id, path, line }]
    | none => []
  classes ++ ids

/-- The usages of a sequence of events that begins on line `line`. -/
def usagesFrom (path : String) (line : Nat) : List Event → List Usage
  | [] => []
  | .opened _ attributes :: more => tagUsages path line attributes ++ usagesFrom path line more
  | .closed _ :: more => usagesFrom path line more
  | .text data :: more => usagesFrom path (line + newlinesIn data) more

/-- The usages of a document, as far as it could be read.  See SPEC_FULL.md:144-146. -/
def usages (path : String) (reading : Reading) : List Usage :=
  usagesFrom path 1 (events reading.calls)

end SiteAudit.Markup
