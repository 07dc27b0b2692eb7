import SiteAudit.Pattern.Reader
/-!
# Names of characters

The printable characters of ASCII by their names, which may be written in either case.  A table of
more characters can take the place of this one wherever patterns are read.
-/
namespace SiteAudit.Pattern

def digitNames : List String :=
  ["zero", "one", "two", "three", "four", "five", "six", "seven", "eight", "nine"]

/-- The names of all characters that are neither letters nor digits. -/
def markNames : List (String × Char) := [
  ("space", ' '), ("exclamation mark", '!'), ("quotation mark", '"'), ("number sign", '#'),
  ("dollar sign", '$'), ("percent sign", '%'), ("ampersand", '&'), ("apostrophe", '\''),
  ("left parenthesis", '('), ("right parenthesis", ')'), ("asterisk", '*'), ("plus sign", '+'),
  ("comma", ','), ("hyphen-minus", '-'), ("full stop", '.'), ("solidus", '/'), ("colon", ':'),
  ("semicolon", ';'), ("less-than sign", '<'), ("equals sign", '='), ("greater-than sign", '>'),
  ("question mark", '?'), ("commercial at", '@'), ("left square bracket", '['),
  ("reverse solidus", '\\'), ("right square bracket", ']'), ("circumflex accent", '^'),
  ("low line", '_'), ("grave accent", '\x60'), ("left curly bracket", '\x7b'),
  ("vertical line", '|'), ("right curly bracket", '\x7d'), ("tilde", '~')]

def letterNames : List (String × Nat) :=
  (List.range 26).flatMap (fun k =>
    let name := "letter " ++ (Char.ofNat (97 + k)).toString
    [("latin small " ++ name, 97 + k), ("latin capital " ++ name, 65 + k)])

def asciiNames : List (String × Nat) :=
  letterNames ++ digitNames.zipIdx.map (fun (name, k) => ("digit " ++ name, 48 + k)) ++
    markNames.map (fun (name, c) => (name, c.toNat))

def charNamed? : CharNames := fun name => asciiNames.lookup (String.ofList (name.map Char.toLower))

end SiteAudit.Pattern
