import Presentment.Der.ObjectIdentifier

/-!
# Branches of the tree of paths

Names are registered for paths of numbers.  A branch holds the names of the paths that go one
number beyond a common path.
-/

namespace Presentment.Der.Registry

/-- Names of the paths that continue a path by one number. -/
structure Branch where
  path : List Nat
  names : List (Nat × String)

/-- The name of a path, if it is one of the branch. -/
def Branch.name? (b : Branch) (arcs : List Nat) : Option String :=
  if arcs.dropLast = b.path then arcs.getLast?.bind (List.lookup · b.names) else none

end Presentment.Der.Registry
