import ControlPlane.Error

/-!
# Reconcile modes

A reconcile pass compares the store's descriptors with the index. It reports the descriptors
the index is missing (`print`), repairs them (`fix`), or reports index rows that have no
descriptor (`reverse`).
-/

namespace ControlPlane

/-- What a reconcile pass does. -/
inductive ReconcileMode where
  | print
  | fix
  | reverse
  deriving Inhabited, BEq, DecidableEq

namespace ReconcileMode

/-- The name of a mode. -/
def name : ReconcileMode → String
  | .print => "print"
  | .fix => "fix"
  | .reverse => "reverse"

/-- Reads a mode from its exact name. -/
def parse (s : String) : Except Error ReconcileMode :=
  match s with
  | "print" => pure .print
  | "fix" => pure .fix
  | "reverse" => pure .reverse
  | other => throw ⟨.invalidParam, "unknown reconcile mode: " ++ other⟩

end ReconcileMode

end ControlPlane
