import ControlPlane.Json.Basic

/-!
# Index rows

The search index keeps one row per service and zone, copied from the descriptor. A row is
soft-deleted rather than removed: its status says whether it is active. In the table the
status is a number, 0 for active and -1 for deleted; any negative number reads as deleted.
-/

namespace ControlPlane

/-- Whether an index row is active or soft-deleted. -/
inductive RowStatus where
  | active
  | deleted
  deriving Inhabited, BEq, DecidableEq

namespace RowStatus

/-- The number stored for a status. -/
def toDb : RowStatus → Int
  | .active => 0
  | .deleted => -1

def ofDb (value : Int) : RowStatus := if value < 0 then .deleted else .active

/-- The name of a status. -/
def name : RowStatus → String
  | .active => "active"
  | .deleted => "deleted"

end RowStatus

end ControlPlane
