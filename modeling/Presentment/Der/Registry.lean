import Presentment.Der.Registry.Algorithm
import Presentment.Der.Registry.Directory
import Presentment.Der.Registry.Infrastructure
import Presentment.Der.Registry.Service

/-!
# Names of object identifiers

An object identifier has the name that is registered for its path, provided it is written in
the shortest form.
-/

namespace Presentment.Der

namespace Registry

/-- All branches. -/
def branches : List Branch :=
  directory ++ services ++ algorithms ++ infrastructure

/-- The name of a path. -/
def name? (arcs : List Nat) : Option String :=
  branches.findSome? (·.name? arcs)

end Registry

/-- The name of an object identifier. -/
def ObjectIdentifier.name? (oid : ObjectIdentifier) : Option String :=
  if oid = ofArcs oid.arcs then Registry.name? oid.arcs else none

end Presentment.Der
