import ControlPlane.Plane.Basic
import ControlPlane.Reconcile.Mode

/-!
# Reconciling the index with the store

The store is the authority on which service zones exist; the index is a projection of it. A
reconcile pass reads every index row, page by page in number order, and the service zone of
every descriptor key in the store. A zone is missing from the index when it has no row, or
only an active row that is not verified; a soft-deleted row counts as present.

* `print` only reports the missing zones;
* `fix` also rewrites each missing zone's row from the stored descriptor, verified, skipping
  a descriptor that vanished or does not read;
* `reverse` also reports the rows without a descriptor key, as orphans.

Rows are never removed. A pass is counted as a reconcile, and its repairs are counted.
-/

namespace ControlPlane

abbrev ZoneKey := String × String

/-- What a pass found. -/
structure ReconcileReport where
  mode : ReconcileMode
  /-- How many descriptor keys the store holds. -/
  storeKeys : Nat
  /-- How many rows the index holds. -/
  indexRows : Nat
  /-- The zones without a usable row, ascending. -/
  missing : List ZoneKey
  /-- How many rows were repaired. -/
  fixed : Nat
  /-- The rows without a descriptor key, ascending; only in reverse mode. -/
  orphaned : List ZoneKey
  deriving Inhabited

def ReconcileReport.isConsistent (r : ReconcileReport) : Bool :=
  r.missing.length == r.fixed && r.orphaned.isEmpty

def ZoneKey.lt (a b : ZoneKey) : Bool := a.1 < b.1 || (a.1 == b.1 && a.2 < b.2)

/-- Inserts a zone into an ascending list of zones, once. -/
def insertZoneKey (k : ZoneKey) : List ZoneKey → List ZoneKey
  | [] => [k]
  | x :: xs =>
    if x == k then x :: xs
    else if ZoneKey.lt k x then k :: x :: xs
    else x :: insertZoneKey k xs

/-- What a pass needs of an index row: its zone, its status and its verification. -/
structure RowState where
  zone : ZoneKey
  status : RowStatus
  verified : Bool

def RowState.usable (r : RowState) : Bool := r.status == .deleted || r.verified

/-- Reads every index row, one page at a time in number order. -/
def loadIndex (pageSize : Int) : Action (List RowState) := do
  let fuel := (← get).index.services.length + 1
  go fuel 0 []
where
  /-- Reads the pages after a row number. -/
  go : Nat → Int → List RowState → Action (List RowState)
    | 0, _, acc => pure acc
    | n + 1, after, acc => do
      let page ← onIndexRead (·.pageAfter after pageSize)
      match page.getLast? with
      | none => pure acc
      | some last =>
        let acc := acc ++ page.map fun r => ⟨(r.service, r.zone), r.status, r.verified⟩
        if (page.length : Int) ≥ pageSize then go n last.id acc else pure acc

/-- The zones of every descriptor key in the store, ascending. -/
def scanDescriptors : Action (List ZoneKey) := do
  let ks := (← get).keyspace
  let r ← onStore (fun s now =>
    s.read now { RangeRequest.startingWith ks.allServicesStart with keysOnly := true })
    "get services fail"
  pure (r.kvs.foldl (fun acc kv =>
    match ks.decode kv.key with
    | some k => if k.isDescriptor then insertZoneKey (k.service, k.zone) acc else acc
    | none => acc) [])

/-- Rewrites one zone's row from its stored descriptor; false when the descriptor vanished or
does not read. -/
def fixZone (zone : ZoneKey) : Action Bool := do
  let key := (← get).keyspace.descriptorKey zone.1 zone.2
  let (kv, _) ← onStore (fun s now => s.get now key) "get service desc fail"
  match kv with
  | none => pure false
  | some kv =>
    match Descriptor.read? kv.value with
    | none => pure false
    | some d =>
      onIndexWrite (·.upsert [{ d with service := zone.1, zone := zone.2 }.hashed] true)
      pure true

/-- One pass in a mode, uncounted. -/
def reconcilePass (mode : ReconcileMode) : Action ReconcileReport := do
  let rows ← loadIndex (← get).pageSize
  let descriptors ← scanDescriptors
  let usable (k : ZoneKey) : Bool :=
    ((rows.reverse.find? (·.zone == k)).map RowState.usable).getD false
  let missing := descriptors.filter fun k => !usable k
  let fixed ← if mode == .fix then
      missing.foldlM (fun n k => do pure (if (← fixZone k) then n + 1 else n)) 0
    else pure 0
  let orphaned := if mode == .reverse then
      (rows.filter fun r => !descriptors.contains r.zone).foldl
        (fun acc r => insertZoneKey r.zone acc) []
    else []
  pure { mode, storeKeys := descriptors.length, indexRows := rows.length, missing, fixed,
         orphaned }

/-- One counted pass in a mode. -/
def reconcile (mode : ReconcileMode) : Action ReconcileReport := do
  let report ← recorded .reconcile (reconcilePass mode)
  count (·.fixed report.fixed)
  pure report

end ControlPlane
