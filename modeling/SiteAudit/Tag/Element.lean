/-!
# Elements

What is known of an element by its name alone: whether it can have content, which open elements it
ends when it begins, and whether its own end tag may be left out.
-/
namespace SiteAudit.Tag

/-- Elements that never have content and so never stay open.  See SPEC_FULL.md:96-97. -/
def voidElements : List String :=
  ["area", "base", "br", "col", "embed", "hr", "img", "input", "link", "meta", "param", "source",
   "track", "wbr"]

def isVoid (name : String) : Bool := voidElements.contains name

/-- Parts of a form that end one another. -/
def formControls : List String :=
  ["input", "option", "optgroup", "select", "button", "datalist", "textarea"]

/-- Elements that begin a block of their own and so end an open paragraph. -/
def blockElements : List String :=
  ["p", "h1", "h2", "h3", "h4", "h5", "h6", "address", "article", "aside", "blockquote", "details",
   "div", "dl", "fieldset", "figcaption", "figure", "footer", "form", "header", "hr", "main", "nav",
   "ol", "pre", "section", "table", "ul"]

/-- The elements that the start of `name` ends while they are innermost.  See SPEC_FULL.md:89-92. -/
def impliedCloses (name : String) : List String :=
  if blockElements.contains name then ["p"]
  else match name with
    | "tr" => ["tr", "th", "td"]
    | "th" => ["th"]
    | "td" => ["thead", "th", "td"]
    | "body" => ["head", "link", "script"]
    | "li" => ["li"]
    | "option" => ["option"]
    | "optgroup" => ["optgroup", "option"]
    | "dd" | "dt" => ["dt", "dd"]
    | "rt" | "rp" => ["rt", "rp"]
    | "tbody" | "tfoot" => ["thead", "tbody"]
    | "select" | "input" | "output" | "button" | "datalist" | "textarea" => formControls
    | _ => []

/-- Elements whose end tag may be left out when an ancestor ends.  See SPEC_FULL.md:92-94. -/
def optionalEndTags : List String :=
  ["li", "p", "dt", "dd", "rt", "rp", "option", "optgroup", "thead", "tbody", "tfoot", "tr", "td",
   "th"]

def hasOptionalEnd (name : String) : Bool := optionalEndTags.contains name

end SiteAudit.Tag
