import ControlPlane.Proofs.Registry.Operations

/-!
# Registry runs

The registry's keys are looked after at two grains. Each store call on its own keeps every
endpoint key reading back as an endpoint of its own address, so that holds however the calls of
concurrent operations interleave (`Interleaved.endpointsRead`). That every endpoint key has its
zone's descriptor key beside it is kept by whole operations only: a plug writes its endpoint
key after it saw the descriptor, and deleting a service deletes the descriptors its read found
with no endpoint under them. Run one after another, with the clock moving and the reaper
sweeping between them, operations keep both (`RegistryRun.registryKeys`). Interleaved, they do
not: the deletion's write conditions only on the descriptors it read, so a plug's endpoint key
written between that read and that write survives its descriptor
(`interleaved_deletion_strands_endpoint`).
-/

namespace ControlPlane

open ControlPlane.Action

/-- What a run of the registry does next: one of its operations, run to its end whether it
succeeds or fails, the clock moving, or the lease reaper sweeping. -/
inductive RegistryOp where
  | plugAll (descs : List Descriptor) (endpoint : Endpoint) (ttl : Int) (lease : LeaseId)
  | unplug (service zone address : String)
  | update (service zone address : String) (endpoint : Endpoint)
  | keepAlive (id : LeaseId)
  | deleteService (service : String) (zone : Option String)
  | tick (now : Nat)
  | reap

/-- The plane a step of a registry run leaves. -/
def RegistryOp.run : RegistryOp → Plane → Plane
  | .plugAll descs endpoint ttl lease, p =>
    ((ControlPlane.plugAll descs endpoint ttl lease).exec p).2
  | .unplug service zone address, p => ((ControlPlane.unplug service zone address).exec p).2
  | .update service zone address endpoint, p =>
    ((ControlPlane.update service zone address endpoint).exec p).2
  | .keepAlive id, p => ((ControlPlane.keepAlive id).exec p).2
  | .deleteService service zone, p => ((ControlPlane.deleteService service zone).exec p).2
  | .tick now, p => { p with clock := now }
  | .reap, p => { p with store := p.store.reap p.clock }

/-- The planes that registry operations reach one after another from an empty store. -/
inductive RegistryRun : Plane → Prop where
  | start (p : Plane) (historyLimit channelCapacity : Nat) :
      RegistryRun { p with store := Store.make historyLimit channelCapacity }
  | step {p : Plane} (op : RegistryOp) : RegistryRun p → RegistryRun (op.run p)

theorem registryKeys_make (ks : KeySpace) (historyLimit channelCapacity : Nat) :
    RegistryKeys ks (Store.make historyLimit channelCapacity) where
  consistent := Store.consistent_make historyLimit channelCapacity
  endpoints := fun _ _ _ _ _ _ _ held => nomatch held
  described := fun _ _ _ _ _ held => nomatch held
  unleased := fun _ _ _ _ _ _ held => nomatch held

/-- Every step of a registry run keeps the registry's keys. -/
theorem RegistryOp.run_keeps {ks : KeySpace} (op : RegistryOp) {p : Plane}
    (h : RegistryState ks p) : RegistryState ks (op.run p) := by
  cases op with
  | plugAll descs endpoint ttl lease => exact (plugAll_keeps descs endpoint ttl lease).snd h
  | unplug service zone address => exact (unplug_keeps service zone address).snd h
  | update service zone address endpoint =>
    exact (update_keeps service zone address endpoint).snd h
  | keepAlive id => exact (keepAlive_keeps id).snd h
  | deleteService service zone => exact (deleteService_keeps service zone).snd h
  | tick now => exact h
  | reap =>
    -- the reaper's sweep is a store call of its own, with no writes
    obtain ⟨hks, keys⟩ := h
    exact ⟨hks, keys.apply (.reap p.clock : RegistryCall ks p.policy _) fun _ _ =>
      describedWrites_nil⟩

/-- Every plane of a registry run holds the registry's keys in its keyspace. -/
theorem RegistryRun.registryKeys {p : Plane} (h : RegistryRun p) :
    RegistryKeys p.keyspace p.store := by
  -- the invariant carried along the run is the plane's, in the keyspace the run started in
  suffices RegistryState p.keyspace p from this.2
  induction h with
  | start p historyLimit channelCapacity => exact ⟨rfl, registryKeys_make _ _ _⟩
  | step op _ ih =>
    obtain ⟨hks, keys⟩ := op.run_keeps ih
    exact ⟨rfl, hks ▸ keys⟩

/-- Every endpoint key reads back as an endpoint of the address it names, in every store that
registry calls reach in any interleaving; run one after another, registry operations also keep
the descriptor key of every endpoint key's zone beside it. -/
theorem endpoints_read_back_and_runs_stay_described (ks : KeySpace) (policy : AddressPolicy)
    (s : Store) (p : Plane) :
    (Interleaved ks policy s → EndpointsRead ks s) ∧
      (RegistryRun p → EndpointsRead p.keyspace p.store ∧ Described p.keyspace p.store) :=
  ⟨fun h => h.endpointsRead, fun h => ⟨h.registryKeys.endpoints, h.registryKeys.described⟩⟩

/-- A plug and an unplug of one endpoint, then a deletion of its service, on a fresh plane. -/
theorem plug_unplug_delete_described :
    let plugged := (RegistryOp.plugAll [{ service := "orders:1.0", zone := "dc-1" }]
      { address := "10.0.0.5:9000" } 0 0).run { store := Store.make 0 0 }
    let p := (RegistryOp.deleteService "orders:1.0" none).run
      ((RegistryOp.unplug "orders:1.0" "dc-1" "10.0.0.5:9000").run plugged)
    RegistryRun p ∧ EndpointsRead p.keyspace p.store ∧ Described p.keyspace p.store := by
  intro plugged p
  have run : RegistryRun p := .step _ (.step _ (.step _ (.start {} 0 0)))
  exact ⟨run,
    (endpoints_read_back_and_runs_stay_described KeySpace.standard {} (Store.make 0 0) p).2 run⟩

/-- Interleaved, a deletion of a service strands an endpoint key: the deletion reads the zone
when only its descriptor is there, a plug writes its endpoint key, and the deletion's write,
whose only condition is that the descriptor it read is unchanged, deletes the descriptor. -/
theorem interleaved_deletion_strands_endpoint :
    ¬ ∀ s, Interleaved KeySpace.standard {} s → Described KeySpace.standard s := by
  intro described
  have hz : checkServiceZone "orders:1.0" "dc-1" = .ok () := rfl
  have ha : AddressPolicy.check {} "10.0.0.6:9000" = .ok () := rfl
  -- what the deletion's read found: the descriptor, created at revision 2
  let d : Descriptor := { service := "orders:1.0", zone := "dc-1" }
  let descKey := KeySpace.standard.descriptorKey d.service d.zone
  let seen : KeyValue :=
    { key := descKey, value := d.text, createRevision := 2, modRevision := 2, version := 1,
      lease := 0 }
  have hw : descriptorDeletes KeySpace.standard [seen] =
      .ok ⟨[.modRevisionEquals descKey 2], [.delete descKey], []⟩ :=
    descriptorDeletes_eq_ok.2 ⟨fun kv hkv => by
      obtain rfl := List.mem_singleton.1 hkv
      exact ⟨_, KeySpace.standard.decode_descriptorKey hz, rfl⟩, rfl⟩
  have run := (((((Interleaved.make 0 0).call
      (.create 0 d hz)).call
      (.read 0 (.startingWith (KeySpace.standard.zoneScanStart "orders:1.0" "dc-1")))).call
      (.endpoint 0 "orders:1.0" "dc-1" { address := "10.0.0.6:9000" } 0 hz ha)).call
      (.deleteDescriptors 0 [seen] _ hw))
  have stranded := described _ run _ _ _ _ (KeySpace.standard.decode_nodeKey hz ha)
    (by decide +kernel)
  unfold ZoneHeld at stranded
  revert stranded
  decide +kernel

end ControlPlane
