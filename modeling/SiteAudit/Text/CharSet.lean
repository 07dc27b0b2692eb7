/-!
# Sets of characters

A set of characters is the increasing list of the code points at which membership changes: the
first starts a run of members, the second ends it, and so on.  A code point is a member when an
odd number of those boundaries lie at or below it.
-/
namespace SiteAudit.Text

/-- A set of code points, given by the points at which membership changes. -/
structure CharSet where
  /-- Increasing; runs of members are half open. -/
  bounds : List Nat

/-- Membership by counting the boundaries passed. -/
def CharSet.has (s : CharSet) (c : Char) : Bool :=
  (s.bounds.takeWhile (fun b => b ≤ c.toNat)).length % 2 == 1

end SiteAudit.Text
