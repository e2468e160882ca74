import ControlPlane.Error
import ControlPlane.Json.Basic

/-!
# Metrics

The control plane counts, per operation, its calls and how many failed, split into failures
of the request and failures of the machinery. Beside them it counts watches that hit their
deadline, rejected conditional writes, leases granted and revoked, and index rows repaired.

The counters are shown as a snapshot and as Prometheus text: families sorted by name, each
with its help and type lines, and the samples of the operations family sorted by operation
name, then outcome.
-/

namespace ControlPlane

/-- The operations the control plane counts. -/
inductive Operation where
  | plug | unplug | update | keepAlive | query | watch | deleteService | search
  | configGet | configPut | configWatch | configRange | configDelete | reconcile
  deriving Inhabited, BEq, DecidableEq

namespace Operation

def all : List Operation :=
  [.plug, .unplug, .update, .keepAlive, .query, .watch, .deleteService, .search,
   .configGet, .configPut, .configWatch, .configRange, .configDelete, .reconcile]

/-- The name of an operation. -/
def name : Operation → String
  | .plug => "plug"
  | .unplug => "unplug"
  | .update => "update"
  | .keepAlive => "keepalive"
  | .query => "query"
  | .watch => "watch"
  | .deleteService => "delete_service"
  | .search => "search"
  | .configGet => "config_get"
  | .configPut => "config_put"
  | .configWatch => "config_watch"
  | .configRange => "config_range"
  | .configDelete => "config_delete"
  | .reconcile => "reconcile"

def ofName? (s : String) : Option Operation := all.find? (·.name == s)

end Operation

/-- The counters of one operation. -/
structure OpCounters where
  calls : Nat := 0
  errors : Nat := 0
  systemErrors : Nat := 0
  deriving Inhabited, BEq

/-- Every counter of the control plane. -/
structure Metrics where
  /-- The counters of each operation, in the order of `Operation.all`. -/
  ops : List (Operation × OpCounters) := Operation.all.map (·, {})
  watchTimeouts : Nat := 0
  casConflicts : Nat := 0
  leasesGranted : Nat := 0
  leasesRevoked : Nat := 0
  reconcileFixed : Nat := 0
  deriving Inhabited

namespace Metrics

def op (m : Metrics) (o : Operation) : OpCounters :=
  ((m.ops.find? (·.1 == o)).map (·.2)).getD {}

/-- Counts a call of an operation and what became of it. A deadline counts as a watch timeout
for the two watches; a version or descriptor conflict counts as a rejected conditional
write. -/
def record (m : Metrics) (o : Operation) (outcome : Option ErrorKind) : Metrics :=
  let bump (c : OpCounters) : OpCounters :=
    match outcome with
    | none => { c with calls := c.calls + 1 }
    | some k =>
      if k.isSystem then { c with calls := c.calls + 1, systemErrors := c.systemErrors + 1 }
      else { c with calls := c.calls + 1, errors := c.errors + 1 }
  let m := { m with ops := m.ops.map fun (p, c) => if p == o then (p, bump c) else (p, c) }
  match outcome with
  | some .deadlineExceeded =>
    if o == .watch || o == .configWatch then { m with watchTimeouts := m.watchTimeouts + 1 }
    else m
  | some .invalidVersion | some .changedServiceDesc =>
    { m with casConflicts := m.casConflicts + 1 }
  | _ => m

def recordResult {α : Type} (m : Metrics) (o : Operation) (r : Except Error α) : Metrics :=
  match r with
  | .ok _ => m.record o none
  | .error e => m.record o (some e.kind)

def leaseGranted (m : Metrics) : Metrics := { m with leasesGranted := m.leasesGranted + 1 }

def leaseRevoked (m : Metrics) : Metrics := { m with leasesRevoked := m.leasesRevoked + 1 }

def fixed (m : Metrics) (n : Nat) : Metrics := { m with reconcileFixed := m.reconcileFixed + n }

def totalCalls (m : Metrics) : Nat := (m.ops.map (·.2.calls)).foldl (· + ·) 0

/-- The snapshot: each operation's counters in order, then the totals. -/
def toJson (m : Metrics) : Json :=
  .obj [("ops", .arr (m.ops.map fun (o, c) =>
          .arr [.str o.name, .obj [("calls", .nat c.calls), ("errors", .nat c.errors),
            ("system_errors", .nat c.systemErrors)]])),
        ("total_calls", .nat m.totalCalls), ("watch_timeouts", .nat m.watchTimeouts),
        ("cas_conflicts", .nat m.casConflicts), ("leases_granted", .nat m.leasesGranted),
        ("leases_revoked", .nat m.leasesRevoked), ("reconcile_fixed", .nat m.reconcileFixed)]

def single (name help : String) (value : Nat) : String :=
  "# HELP " ++ name ++ " " ++ help ++ "\n# TYPE " ++ name ++ " counter\n" ++
    name ++ " " ++ toString value ++ "\n"

def textBefore (a b : String) : Bool := compare a b == .lt

/-- The Prometheus text of the counters. -/
def prometheus (m : Metrics) : String :=
  let family := "svc_registry_operations_total"
  let samples := (m.ops.mergeSort fun a b => !textBefore b.1.name a.1.name).map fun (o, c) =>
    let line (outcome : String) (v : Nat) : String :=
      family ++ "\x7bop=\"" ++ o.name ++ "\",outcome=\"" ++ outcome ++ "\"\x7d " ++
        toString v ++ "\n"
    line "error" c.errors ++ line "ok" (c.calls - (c.errors + c.systemErrors)) ++
      line "system_error" c.systemErrors
  single "svc_registry_cas_conflicts_total" "Rejected conditional writes" m.casConflicts ++
  single "svc_registry_leases_granted_total" "Leases granted" m.leasesGranted ++
  single "svc_registry_leases_revoked_total" "Leases revoked" m.leasesRevoked ++
  "# HELP " ++ family ++ " Operations handled\n# TYPE " ++ family ++ " counter\n" ++
    String.join samples ++
  single "svc_registry_reconcile_fixed_total" "Index rows repaired" m.reconcileFixed ++
  single "svc_registry_watch_timeouts_total" "Watches that hit their deadline" m.watchTimeouts

end Metrics

end ControlPlane
