import SiteAudit.Log.Record
/-!
# The tree of logger names

Loggers hang below one another by their names, which dots cut into parts.  The parent of a name is
found by cutting it at its dots, from the last to the first: the first cut that is the name of a
logger is the parent.  A dot right before a cut is no place for the next one.  A name without a
parent hangs below nothing, and what is logged under it does not come to the root.

* `reaches` tells whether what is logged under a name comes to the root.
-/
namespace SiteAudit.Log

/-- Climbs from a name to the root; the name is read from its end.  `known` are the names that
loggers have.  The flag says that the next character stands right before a cut. -/
def reachesFrom (known : List String) : Bool → List Char → Bool
  | _, [] => false
  | true, _ :: r => reachesFrom known false r
  | false, c :: r =>
    if c = '.' then
      let cut := String.ofList r.reverse
      if cut = root then true else reachesFrom known (!known.contains cut) r
    else reachesFrom known false r

/-- Whether what is logged under a name comes to the root. -/
def reaches (known : List String) (name : String) : Bool :=
  name == root || reachesFrom known false name.toList.reverse

/-- The names of loggers after one more was asked for. -/
def ask (known : List String) (name : String) : List String :=
  if known.contains name then known else known ++ [name]

end SiteAudit.Log
