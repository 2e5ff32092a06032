/-
  The newest schema version seen.
-/

set_option autoImplicit false

namespace TupleWire

/-- The newest schema version seen on any response. -/
structure SchemaTracker where
  current : UInt64 := 0
  deriving DecidableEq, Repr, Inhabited

namespace SchemaTracker

/-- Takes a version into account; an older one changes nothing. -/
def observe (t : SchemaTracker) (version : UInt64) : SchemaTracker := ⟨max t.current version⟩

/-- The trackers after each of a row of versions. -/
def observeAll (t : SchemaTracker) : List UInt64 → List SchemaTracker
  | [] => []
  | v :: vs => t.observe v :: observeAll (t.observe v) vs

end SchemaTracker

end TupleWire
