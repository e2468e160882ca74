import ControlPlane.Proofs.Registry.Indexed
import ControlPlane.Proofs.Registry.Runs

/-!
# Runs that leave nothing to reconcile

Registry operations run one after another from an empty store and an empty index, failed or
not, with the clock moving and the reaper sweeping between them, keep the index agreeing with
the store as long as each plug's descriptors agree with each other and with the descriptors
the store holds for their zones (`AgreeingRun`). A reconcile pass in print mode over any plane
of such a run reports no zone missing (`agreeing_runs_leave_nothing_missing`).

The condition on plugs is needed. A plug creates its descriptors one by one before it writes
any row, and a descriptor refused as changed ends it there: the descriptors it created before
keep no row (`refused_plug_leaves_zone_missing`).
-/

namespace ControlPlane

open ControlPlane.Action

/-- What an operation needs of the plane it starts from to keep the index agreeing: a plug's
prepared descriptors agree with each other and with the store; the others need nothing. -/
def RegistryOp.Agrees (p : Plane) : RegistryOp → Prop
  | .plugAll descs _ _ _ =>
    ∀ ds, descs.mapM prepareDescriptor = .ok ds → PlugAgrees p.keyspace ds p.store
  | _ => True

/-- The planes that registry operations reach one after another from an empty store and an
empty index, each plug agreeing with the plane it starts from. -/
inductive AgreeingRun : Plane → Prop where
  | start (p : Plane) (historyLimit channelCapacity : Nat) :
      AgreeingRun { p with store := Store.make historyLimit channelCapacity, index := {} }
  | step {p : Plane} (op : RegistryOp) : AgreeingRun p → op.Agrees p → AgreeingRun (op.run p)

theorem Index.numbered_empty : Index.Numbered {} :=
  ⟨List.Pairwise.nil, nofun, nofun, by decide⟩

theorem agreeing_make (p : Plane) (historyLimit channelCapacity : Nat) :
    Framed p.keyspace (Agreeing p.keyspace)
      { p with store := Store.make historyLimit channelCapacity, index := {} } := by
  refine ⟨rfl, Store.consistent_make historyLimit channelCapacity, ?_, ?_, fun _ => ⟨rfl, nofun⟩,
    Index.numbered_empty⟩
  -- an empty store holds no key
  · exact fun _ _ _ _ _ _ held => nomatch held
  · exact fun _ _ _ _ _ _ held => nomatch held

/-- Every step of a run keeps the index agreeing, when a plug agrees with the plane it starts
from. -/
theorem RegistryOp.run_agreeing {ks : KeySpace} (op : RegistryOp) {p : Plane}
    (h : Framed ks (Agreeing ks) p) (ha : op.Agrees p) : Framed ks (Agreeing ks) (op.run p) := by
  cases op with
  | plugAll descs endpoint ttl lease =>
    exact (plugAll_agrees descs endpoint ttl lease).snd ⟨h, h.1 ▸ ha⟩
  | unplug service zone address =>
    exact (unplug_frame keptByRegistry_agreeing service zone address).snd h
  | update service zone address endpoint =>
    exact (update_frame keptByRegistry_agreeing service zone address endpoint).snd h
  | keepAlive id => exact (keepAlive_frame keptByRegistry_agreeing id).snd h
  | deleteService service zone =>
    exact (deleteService_frame keptByRegistry_agreeing service zone).snd h
  | tick now =>
    -- the clock is no part of the agreement
    obtain ⟨hks, consistent, unleased, agrees⟩ := h
    exact ⟨hks, consistent, unleased, agrees.descriptors, agrees.answers, agrees.numbered⟩
  | reap =>
    -- the reaper's sweep is a store call of its own, with no writes
    obtain ⟨hks, consistent, agreeing⟩ := h
    exact ⟨hks, consistent.apply (.reap p.clock),
      keptByRegistry_agreeing.call p (.reap p.clock) consistent (fun _ => putsNoDescriptor_nil)
        agreeing⟩

theorem AgreeingRun.framed {p : Plane} (h : AgreeingRun p) :
    Framed p.keyspace (Agreeing p.keyspace) p := by
  -- the keyspace is the one the run started in, kept by every step
  induction h with
  | start p historyLimit channelCapacity => exact agreeing_make p historyLimit channelCapacity
  | step op _ ha ih =>
    obtain ⟨hks, consistent, agreeing⟩ := op.run_agreeing ih ha
    exact ⟨rfl, consistent, hks ▸ agreeing⟩

/-- Registry operations run one after another from an empty store and an empty index, failed
or not, with lease expiry between them, keep every stored descriptor's zone with a row and
every row of the zone soft-deleted or verified under the descriptor's hash, as long as each
plug's descriptors agree with each other and with those stored; a reconcile pass in print mode
then reports no zone missing and the index consistent. -/
theorem agreeing_runs_leave_nothing_missing :
    ∀ p, AgreeingRun p → IndexAgrees p.keyspace p ∧
      (p.pageSize ≠ 0 → ∃ report, ((reconcile .print).exec p).1 = .ok report ∧
        report.missing = [] ∧ report.isConsistent = true) := by
  intro p run
  obtain ⟨-, consistent, -, agrees⟩ := run.framed
  exact ⟨agrees, reconcile_print_consistent consistent agrees⟩

theorem zonesAgree_of_mapM_singleton {d : Descriptor} {ds : List Descriptor}
    (h : [d].mapM prepareDescriptor = .ok ds) : ZonesAgree ds := by
  obtain ⟨rfl, -⟩ := mapM_prepareDescriptor_eq h
  intro x hx y hy _ _
  rw [List.map_singleton] at hx hy
  rw [List.mem_singleton.1 hx, List.mem_singleton.1 hy]

/-- A plug of one endpoint on a fresh plane, and the reconcile pass after it. -/
theorem plug_leaves_nothing_missing :
    let p := (RegistryOp.plugAll [{ service := "orders:1.0", zone := "dc-1", kind := "grpc" }]
      { address := "10.0.0.5:9000" } 0 0).run { store := Store.make 0 0 }
    AgreeingRun p ∧ IndexAgrees p.keyspace p ∧
      (p.pageSize ≠ 0 → ∃ report, ((reconcile .print).exec p).1 = .ok report ∧
        report.missing = [] ∧ report.isConsistent = true) := by
  intro p
  -- the store is empty, so the plug's one descriptor agrees with it
  have run : AgreeingRun p := .step _ (.start {} 0 0) fun _ hds =>
    ⟨zonesAgree_of_mapM_singleton hds, fun _ _ _ _ held => nomatch held⟩
  exact ⟨run, agreeing_runs_leave_nothing_missing p run⟩

/-- A plug refused half way leaves a zone without a row: its first descriptor is created, the
second, of the same zone with another proto, is refused as changed, and the plug ends before it
writes a row. A reconcile pass reports the zone missing. -/
theorem refused_plug_leaves_zone_missing :
    let p := (RegistryOp.plugAll
      [{ service := "orders:1.0", zone := "dc-1", kind := "grpc", proto := "v1" },
        { service := "orders:1.0", zone := "dc-1", kind := "grpc", proto := "v2" }]
      { address := "10.0.0.5:9000" } 0 0).run { store := Store.make 0 0 }
    RegistryRun p ∧
      ((reconcile .print).exec p).1.toOption.map (·.missing) = some [("orders:1.0", "dc-1")] :=
  ⟨.step _ (.start {} 0 0), by decide +kernel⟩

end ControlPlane
