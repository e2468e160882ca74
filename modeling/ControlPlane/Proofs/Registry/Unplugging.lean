import ControlPlane.Proofs.Registry.Listed
import ControlPlane.Proofs.Registry.Query
import ControlPlane.Proofs.Registry.Discovery
import ControlPlane.Proofs.Configs.Mirror
import ControlPlane.Proofs.Store.AtRest

/-!
# An unplug removes one endpoint and hides it

An unplug deletes one endpoint key. When it deleted one, it reads at most one key under the
zone's endpoint scan start, keys only, and when that read finds nothing it soft-deletes the
zone's rows in the index.

1. The store part. The delete never fails and the read after it changes nothing: the delete
   leaves the store at rest at the plane's clock, so the read's sweep drops nothing
   (`Store.AtRest.delete`, `Store.read_atRest`). The unplug therefore leaves the swept store
   with the endpoint key gone (`exec_unplug`).
2. The index part. The read finds nothing exactly when the zone holds no endpoint key: every key
   that registry calls write reads back as a service key (`Interleaved.keysDecode`), and a
   service key under a zone's endpoint scan start is an endpoint key of that zone
   (`KeySpace.eq_nodeKey_of_prefix`); the zone's descriptor key is not under it.
3. Hiding. A query lists an endpoint in a zone only when the store holds the endpoint key of the
   endpoint's own address there (`query_lists_held`), since every endpoint key holds an endpoint
   of its address. No registry call other than a plug of the key writes it back
   (`RegistryCall.keeps_unplugged`), so after any run of such calls
   (`CallsWithoutPlug.held_none`) no query lists the address in the zone.
-/

namespace ControlPlane

/-! ## Keys under a zone's endpoint scan start -/

namespace KeySpace

variable (ks : KeySpace)

theorem toList_nodeScanStart (service zone : String) :
    (ks.nodeScanStart service zone).toList =
      (ks.zoneScanStart service zone).toList ++ "node_".toList := by
  simp [nodeScanStart, zoneScanStart]

/-- A service key under the endpoint scan start of a zone whose names hold no slash is an
endpoint key of that zone. -/
theorem eq_nodeKey_of_prefix {service zone k : String} {sk : ServiceKey}
    (hs : '/' ∉ service.toList) (hz : '/' ∉ zone.toList) (hk : ks.decode k = some sk)
    (under : (ks.nodeScanStart service zone).toList <+: k.toList) :
    ∃ address, k = ks.nodeKey service zone address := by
  obtain ⟨rfl, readable⟩ := ks.eq_encode_of_decode hk
  have inZone : (ks.zoneScanStart service zone).toList <+: (ks.encode sk).toList := by
    refine List.IsPrefix.trans ?_ under
    rw [toList_nodeScanStart]
    exact List.prefix_append _ _
  obtain ⟨same, sameZone⟩ := (ks.prefix_zoneScanStart readable hs hz).1 inZone
  obtain ⟨s, z, suffix⟩ := sk
  dsimp only at same sameZone
  subst same sameZone
  cases suffix with
  | descriptor => exact absurd under (ks.not_nodeScanStart_prefix_descriptorKey s z)
  | node address => exact ⟨address, rfl⟩

end KeySpace

/-! ## The store calls of an unplug -/

namespace Store

variable {s : Store} {now : Nat} {key : String}

theorem delete_eq (s : Store) (now : Nat) (key : String) :
    ∃ u : Store, s.delete now key =
      (.ok (if ((s.expire now).find? key).isSome then 1 else 0, u.revision), u.publish) := by
  obtain ⟨u, happ⟩ : ∃ u, (s.expire now).applyWrites [.delete key] = .ok u := by
    rw [applyWrites_eq, missingLease?_eq_none (by simp)]
    exact ⟨_, rfl⟩
  refine ⟨u, ?_⟩
  simp only [Store.delete, Store.call, bind, Except.bind, happ, pure, Except.pure]

theorem delete_find? (hc : s.Consistent) (k : String) :
    (s.delete now key).2.find? k = if k = key then none else (s.expire now).find? k := by
  rw [(delete_applied hc now key).find? k]
  by_cases same : k = key <;> simp [WriteOp.entryAfter, same]

/-- Writes leave no lease due at the moment of the sweep they follow. -/
theorem undue_applyWrites (hc : s.Consistent) {ops : List WriteOp} {t : Store}
    (happ : (s.expire now).applyWrites ops = .ok t) :
    ∀ l ∈ t.leases, LeaseRecord.isDue now l = false := by
  intro l hl
  have timed : (l.id, l.deadline) ∈ (s.expire now).timings := by
    rw [← applyWrites_timings happ]
    exact List.mem_map_of_mem hl
  obtain ⟨l', hl', same⟩ := List.mem_map.1 timed
  unfold LeaseRecord.isDue
  rw [← (Prod.mk.inj same).2]
  exact undue_expire hc l' hl'

theorem AtRest.delete (hc : s.Consistent) (key : String) : AtRest now (s.delete now key).2 :=
  AtRest.call hc fun _ t hw => by
    obtain ⟨t', happ, hpure⟩ := Except.bind_eq_ok hw
    cases hpure
    exact undue_applyWrites hc happ

theorem read_atRest (h : AtRest now s) (r : RangeRequest) :
    s.read now r = (.ok (s.range r), s) := by
  rw [read_eq, expire_atRest h, publish_of_pending h.pending]

end Store

/-! ## The keys registry calls write -/

/-- Every held key reads back as a service key. -/
def KeysDecode (ks : KeySpace) (s : Store) : Prop :=
  ∀ k, (s.held k).isSome → (ks.decode k).isSome

section

variable {ks : KeySpace} {policy : AddressPolicy}

/-- A write of a transaction is a write of the branch its conditions picked. -/
theorem mem_writesAt_txn {now : Nat} {w : ConditionalWrite} {t : Store} {op : WriteOp}
    (h : op ∈ (Store.Call.txn now w).writesAt t) :
    (w.conditions.all t.holds = true ∧ op ∈ w.onSuccess) ∨ op ∈ w.onFailure := by
  simp only [Store.Call.writesAt] at h
  by_cases held : w.conditions.all t.holds = true
  · rw [if_pos held] at h
    exact .inl ⟨held, h⟩
  · rw [if_neg held] at h
    exact .inr h

/-- What a registry call puts, whatever it finds in the store: a descriptor key, the endpoint
key of a plug, or a key the store already holds (an update). Each reads back as a service key. -/
theorem RegistryCall.put_cases {c : Store.Call} (hcall : RegistryCall ks policy c)
    (t : Store) {k v : String} {b : LeaseBinding} (hput : .put k v b ∈ c.writesAt t) :
    ∃ sk, ks.decode k = some sk ∧
      (sk.suffix = .descriptor ∨ (∃ now v lease, c = .txn now (endpointWrite k v lease)) ∨
        (t.find? k).isSome) := by
  cases hcall with
  | create now d hz =>
    rcases mem_writesAt_txn hput with ⟨-, hmem⟩ | hmem
    · simp only [descriptorCreate, List.mem_singleton, WriteOp.put.injEq] at hmem
      obtain ⟨rfl, -, -⟩ := hmem
      exact ⟨_, ks.decode_descriptorKey hz, .inl rfl⟩
    · simp [descriptorCreate] at hmem
  | endpoint now service zone e lease hz ha =>
    rcases mem_writesAt_txn hput with ⟨-, hmem⟩ | hmem
    · simp [endpointWrite] at hmem
    · simp only [endpointWrite, List.mem_singleton, WriteOp.put.injEq] at hmem
      obtain ⟨rfl, -, -⟩ := hmem
      exact ⟨_, ks.decode_nodeKey hz ha, .inr (.inl ⟨now, e.text, lease, rfl⟩)⟩
  | update now service zone e hz ha =>
    rcases mem_writesAt_txn hput with ⟨present, hmem⟩ | hmem
    · -- the rewrite is guarded by the key being present
      simp only [endpointUpdate, List.mem_singleton, WriteOp.put.injEq] at hmem
      obtain ⟨rfl, -, -⟩ := hmem
      simp only [endpointUpdate, List.all_cons, List.all_nil, Bool.and_true, Store.holds] at present
      exact ⟨_, ks.decode_nodeKey hz ha, .inr (.inr present)⟩
    · simp [endpointUpdate] at hmem
  | unplug now service zone address hz ha => simp [Store.Call.writesAt] at hput
  | deleteDescriptors now kvs w hw =>
    obtain ⟨-, rfl⟩ := descriptorDeletes_eq_ok.1 hw
    rcases mem_writesAt_txn hput with ⟨-, hmem⟩ | hmem <;> simp at hmem
  | get | read | grant | revoke | keepAlive | reap => simp [Store.Call.writesAt] at hput

/-- One registry call keeps every held key reading back: the sweep only removes keys, and the
call's own puts read back. -/
theorem KeysDecode.apply {s : Store} {c : Store.Call} (hs : KeysDecode ks s) (hc : s.Consistent)
    (hcall : RegistryCall ks policy c) : KeysDecode ks (c.apply s) := by
  obtain ⟨t, swept, ops, hops, held⟩ := Store.Call.held_apply hc c
  intro k hk
  obtain ⟨⟨v, l⟩, hv⟩ := Option.isSome_iff_exists.1 hk
  rw [held] at hv
  rcases Store.foldl_heldAfter_cases hv with before | ⟨b, hmem, -⟩
  · exact hs k (by rw [swept.kept _ _ before]; rfl)
  · rcases hops with rfl | rfl
    · cases hmem
    · obtain ⟨sk, hsk, -⟩ := hcall.put_cases t hmem
      rw [hsk]
      rfl

theorem Interleaved.keysDecode {s : Store} (h : Interleaved ks policy s) : KeysDecode ks s := by
  induction h with
  | make historyLimit channelCapacity =>
    intro k hk
    simp [Store.held, Store.make, Store.find?] at hk
  | call hcall hs ih => exact ih.apply hs.reachable.consistent hcall

/-! ## Nothing but a plug writes an endpoint key back -/

/-- A registry call that puts a gone endpoint key back is a plug of it: a descriptor create puts
another key, and an update puts only a key the swept store holds. -/
theorem RegistryCall.plugs_of_put {c : Store.Call} (hcall : RegistryCall ks policy c)
    {key service zone address : String} (hk : ks.decode key = some ⟨service, zone, .node address⟩)
    {s t : Store} (swept : s.Sweeps t) (gone : s.held key = none) {v : String} {b : LeaseBinding}
    (hput : .put key v b ∈ c.writesAt t) : ∃ now v lease, c = .txn now (endpointWrite key v lease) := by
  obtain ⟨sk, hsk, kind⟩ := hcall.put_cases t hput
  rw [hk] at hsk
  cases hsk
  rcases kind with descriptor | plug | present
  · cases descriptor
  · exact plug
  · -- an update rewrites only a key the swept store holds, and the sweep adds no key
    obtain ⟨kv, hkv⟩ := Option.isSome_iff_exists.1 present
    have held : t.held key = some (kv.value, kv.lease) := by
      simp [Store.held, hkv]
    rw [swept.kept _ _ held] at gone
    cases gone

/-- A registry call other than a plug of a gone endpoint key leaves it gone. -/
theorem RegistryCall.keeps_unplugged {c : Store.Call} (hcall : RegistryCall ks policy c)
    {key service zone address : String} (hk : ks.decode key = some ⟨service, zone, .node address⟩)
    (other : ∀ now v lease, c ≠ .txn now (endpointWrite key v lease)) {s : Store}
    (hc : s.Consistent) (gone : s.held key = none) : (c.apply s).held key = none := by
  obtain ⟨t, swept, ops, hops, held⟩ := Store.Call.held_apply hc c
  cases hv : (c.apply s).held key with
  | none => rfl
  | some q =>
    rw [held] at hv
    rcases Store.foldl_heldAfter_cases hv with before | ⟨b, hmem, -⟩
    · rw [swept.kept _ _ before] at gone
      cases gone
    · rcases hops with rfl | rfl
      · cases hmem
      · obtain ⟨now, v, lease, rfl⟩ := hcall.plugs_of_put hk swept gone hmem
        exact absurd rfl (other now v lease)

/-- The stores registry calls reach from `s` when none of them is a plug of the endpoint key
`key`. -/
inductive CallsWithoutPlug (ks : KeySpace) (policy : AddressPolicy) (key : String) :
    Store → Store → Prop where
  | refl (s : Store) : CallsWithoutPlug ks policy key s s
  | call {s t : Store} {c : Store.Call} (hcall : RegistryCall ks policy c)
      (other : ∀ now v lease, c ≠ .txn now (endpointWrite key v lease)) :
      CallsWithoutPlug ks policy key s t → CallsWithoutPlug ks policy key s (c.apply t)

theorem CallsWithoutPlug.interleaved {key : String} {s t : Store}
    (h : CallsWithoutPlug ks policy key s t) (hs : Interleaved ks policy s) :
    Interleaved ks policy t := by
  induction h with
  | refl => exact hs
  | call hcall _ _ ih => exact ih.call hcall

/-- An endpoint key that is gone stays gone through every run of registry calls without a plug
of it. -/
theorem CallsWithoutPlug.held_none {key service zone address : String} {s t : Store}
    (h : CallsWithoutPlug ks policy key s t) (hs : Interleaved ks policy s)
    (hk : ks.decode key = some ⟨service, zone, .node address⟩) (gone : s.held key = none) :
    t.held key = none := by
  induction h with
  | refl => exact gone
  | call hcall other run ih =>
    exact hcall.keeps_unplugged hk other (run.interleaved hs).reachable.consistent ih

end

/-! ## What a query lists -/

namespace Snapshot

variable {ks : KeySpace} {resolver : Resolver} {service : String} {client : Option IpAddr}

/-- An endpoint entry of the service is an endpoint key of its zone, and its endpoint, at the
address the client should use, is what its value reads as. -/
theorem endpointOf_eq_some {kv : KeyValue} {z : String} {e : Endpoint}
    (h : endpointOf ks resolver service client kv = some (z, e)) :
    ∃ a e₀, ks.decode kv.key = some ⟨service, z, .node a⟩ ∧ Endpoint.read? kv.value = some e₀ ∧
      e = { e₀ with address := resolver.mapAddress e₀.address client } := by
  unfold endpointOf at h
  split at h
  · rename_i s z' a hk
    split at h
    · rename_i same
      subst same
      obtain ⟨e₀, he₀, pair⟩ := Option.map_eq_some_iff.1 h
      cases pair
      exact ⟨a, e₀, hk, he₀, rfl⟩
    · cases h
  · cases h

/-- Every endpoint of a zone of the reference snapshot comes from an endpoint entry of that
zone. -/
theorem mem_reference {kvs : List KeyValue} {z : String} {view : ZoneView}
    (hz : (z, view) ∈ (reference ks resolver service client kvs).zones) {e : Endpoint}
    (he : e ∈ view.endpoints) : ∃ kv ∈ kvs, endpointOf ks resolver service client kv = some (z, e) := by
  simp only [reference, List.mem_map] at hz
  obtain ⟨z', -, pair⟩ := hz
  obtain ⟨rfl, rfl⟩ := Prod.mk.inj pair
  simp only [List.mem_map, List.mem_filter, beq_iff_eq] at he
  obtain ⟨⟨z'', e'⟩, ⟨mem, same⟩, rfl⟩ := he
  dsimp only at same
  subst same
  obtain ⟨kv, hkv, found⟩ := List.mem_filterMap.1 mem
  exact ⟨kv, hkv, found⟩

end Snapshot

open ControlPlane.Action in
/-- A query lists an endpoint in a zone only when the store holds the endpoint key of the
endpoint's own address in that zone: in a store registry calls reach, every endpoint key holds an
endpoint of the address it names. -/
theorem query_lists_held {policy : AddressPolicy} {q : Plane}
    (reached : Interleaved q.keyspace policy q.store) {service : String} {zo : Option String}
    {snap : ServiceSnapshot} {rev : Revision} (h : ((query service zo none).exec q).1 = .ok (snap, rev))
    {z : String} {view : ZoneView} (hz : (z, view) ∈ snap.zones) {e : Endpoint}
    (he : e ∈ view.endpoints) : (q.store.held (q.keyspace.nodeKey service z e.address)).isSome := by
  have hc := reached.reachable.consistent
  rw [query, exec_recorded] at h
  dsimp only at h
  cases hstart : scanStart q.keyspace service zo with
  | error err =>
    unfold snapshot at h
    rw [exec_get_bind, exec_bind, exec_ofExcept, hstart] at h
    cases h
  | ok start =>
    rw [snapshot_eq_answer q hc none hstart] at h
    -- the answer is the reference snapshot of the entries the query read
    have reference : snap = Snapshot.reference q.keyspace q.resolver service none
        ((q.store.expire q.clock).entries.filter fun kv => start.toList.isPrefixOf kv.key.toList) := by
      unfold Snapshot.answer at h
      split at h
      · cases h
      · split at h
        · cases h
        · cases h
          rfl
    subst reference
    obtain ⟨kv, hkv, found⟩ := Snapshot.mem_reference hz he
    obtain ⟨a, e₀, hk, he₀, rfl⟩ := Snapshot.endpointOf_eq_some found
    -- the entry is held by the swept store, where its endpoint names its key's address
    have entry : (q.store.expire q.clock).find? kv.key = some kv :=
      find?_of_mem hc.expire.entries_sorted (List.mem_filter.1 hkv).1
    have held : (q.store.expire q.clock).held kv.key = some (kv.value, kv.lease) := by
      simp [Store.held, entry]
    obtain ⟨e', he', named⟩ := (reached.expire q.clock).endpointsRead kv.key service z a hk
      kv.value kv.lease (by rw [Store.held_publish]; exact held)
    rw [he₀] at he'
    cases he'
    have key : kv.key = q.keyspace.nodeKey service z e₀.address := by
      rw [named]
      exact (q.keyspace.eq_encode_of_decode hk).1
    -- without a client the endpoint keeps its address
    show (q.store.held (q.keyspace.nodeKey service z e₀.address)).isSome
    rw [← key, (Store.Sweeps.expire hc q.clock).kept _ _ held]
    rfl

/-! ## The last endpoint of a zone -/

/-- In a store registry calls reach, a read of at most one key under the endpoint scan start of
a checked zone finds nothing exactly when the zone holds no endpoint key: every key under that
start is an endpoint key of the zone. -/
theorem lastEndpoint_read_empty_iff {ks : KeySpace} {policy : AddressPolicy} {w : Store}
    (reached : Interleaved ks policy w) {service zone : String}
    (hz : checkServiceZone service zone = .ok ()) :
    (w.range { RangeRequest.startingWith (ks.nodeScanStart service zone) with
        limit := 1, keysOnly := true }).kvs.isEmpty ↔
      ∀ a, w.find? (ks.nodeKey service zone a) = none := by
  constructor
  · intro empty a
    have gone := Store.nodeKey_none (List.isEmpty_iff.1 empty) a
    simpa [Store.held] using gone
  · intro emptied
    refine List.isEmpty_iff.2 (Store.range_limit_one_eq_nil_iff.2 ?_)
    rw [Store.range_startingWith, List.filter_eq_nil_iff]
    intro kv mem under
    -- a key under the start reads back as a service key, so it is an endpoint key of the zone
    have found : w.find? kv.key = some kv :=
      find?_of_mem reached.reachable.consistent.entries_sorted mem
    have decodes := reached.keysDecode kv.key (by simp [Store.held, found])
    obtain ⟨sk, hsk⟩ := Option.isSome_iff_exists.1 decodes
    obtain ⟨hs', hz'⟩ := checkServiceZone_ok hz
    obtain ⟨a, key⟩ := ks.eq_nodeKey_of_prefix (segment_of_checkService hs').noSlash
      (segment_of_checkZone hz').noSlash hsk (List.isPrefixOf_iff_prefix.1 under)
    have gone := emptied a
    rw [← key, found] at gone
    cases gone

/-! ## The unplug -/

/-- What an unplug of checked names answers and leaves, its counters apart. The delete never
fails and the read after it changes nothing, so the endpoint key is deleted at the plane's
clock, and when it was there and the read after finds no endpoint key of the zone, the zone's
rows are soft-deleted. -/
def unplugOutcome (p : Plane) (service zone address : String) : Except Error Unit × Plane :=
  let z := zoneOrDefault zone
  let key := p.keyspace.nodeKey service z address
  let w := (p.store.delete p.clock key).2
  let rest := { RangeRequest.startingWith (p.keyspace.nodeScanStart service z) with
    limit := 1, keysOnly := true }
  if ((p.store.expire p.clock).find? key).isSome && (w.range rest).kvs.isEmpty then
    match p.index.softDelete service (some z) with
    | .ok (_, ix) => (.ok (), { p with store := w, index := ix })
    | .error e => (.error e, { p with store := w })
  else (.ok (), { p with store := w })

variable {service zone address : String}

open ControlPlane.Action in
/-- An unplug that answers passed its checks. -/
theorem unplug_checked {p : Plane} (h : ((unplug service zone address).exec p).1 = .ok ()) :
    checkServiceZone service (zoneOrDefault zone) = .ok () ∧ p.policy.check address = .ok () := by
  rw [unplug, exec_recorded] at h
  dsimp only at h
  cases hz : checkServiceZone service (zoneOrDefault zone) with
  | error e =>
    rw [exec_check_bind_of_error hz] at h
    cases h
  | ok u =>
    refine ⟨rfl, ?_⟩
    cases ha : p.policy.check address with
    | error e =>
      rw [exec_bind, check, exec_ofExcept, hz] at h
      dsimp only at h
      rw [exec_get_bind, exec_check_bind_of_error ha] at h
      cases h
    | ok u' => rfl

open ControlPlane.Action in
theorem exec_unplug {p : Plane} (hc : p.store.Consistent)
    (hz : checkServiceZone service (zoneOrDefault zone) = .ok ())
    (ha : p.policy.check address = .ok ()) :
    (unplug service zone address).exec p =
      ((unplugOutcome p service zone address).1,
        { (unplugOutcome p service zone address).2 with
          metrics := (unplugOutcome p service zone address).2.metrics.recordResult .unplug
            (unplugOutcome p service zone address).1 }) := by
  apply exec_recorded_of
  rw [exec_check_bind_of_ok hz]
  dsimp only
  rw [exec_get_bind, exec_check_bind_of_ok ha]
  -- the delete answers whether the key was there and leaves the store at rest
  obtain ⟨u, deleted⟩ := Store.delete_eq p.store p.clock
    (p.keyspace.nodeKey service (zoneOrDefault zone) address)
  have rest : Store.AtRest p.clock
      (p.store.delete p.clock (p.keyspace.nodeKey service (zoneOrDefault zone) address)).2 :=
    Store.AtRest.delete hc _
  rw [deleted] at rest
  rw [exec_bind, exec_onStore, deleted]
  unfold unplugOutcome
  dsimp only
  rw [deleted]
  dsimp only
  by_cases removed : ((p.store.expire p.clock).find?
    (p.keyspace.nodeKey service (zoneOrDefault zone) address)).isSome
  · -- a key was deleted: the read after it, at rest, decides the soft delete
    simp only [removed, if_true, Bool.true_and] at rest ⊢
    rw [if_neg (by decide), exec_bind, exec_onStore, Store.read_atRest rest]
    dsimp only
    -- one split serves both sides: they test the same read
    split
    · rw [exec_bind, exec_onIndex]
      cases p.index.softDelete service (some (zoneOrDefault zone)) <;> rfl
    · rfl
  · -- nothing was deleted: the unplug stops there
    simp only [removed, Bool.false_eq_true, if_false, Bool.false_and]
    rfl

section Outcome

variable {p : Plane}

theorem unplugOutcome_store :
    (unplugOutcome p service zone address).2.store =
      (p.store.delete p.clock (p.keyspace.nodeKey service (zoneOrDefault zone) address)).2 := by
  unfold unplugOutcome
  dsimp only
  split
  · split <;> rfl
  · rfl

theorem unplugOutcome_keyspace :
    (unplugOutcome p service zone address).2.keyspace = p.keyspace := by
  unfold unplugOutcome
  dsimp only
  split
  · split <;> rfl
  · rfl

/-- The index an unplug that answers leaves: the zone's rows soft-deleted when the key was there
and the read after the delete found no endpoint key, the index as it was otherwise. -/
theorem unplugOutcome_index (h : (unplugOutcome p service zone address).1 = .ok ()) :
    let z := zoneOrDefault zone
    let key := p.keyspace.nodeKey service z address
    let last := ((p.store.expire p.clock).find? key).isSome = true ∧
      ((p.store.delete p.clock key).2.range { RangeRequest.startingWith
        (p.keyspace.nodeScanStart service z) with limit := 1, keysOnly := true }).kvs.isEmpty = true
    (last → ∃ n, p.index.softDelete service (some z) =
      .ok (n, (unplugOutcome p service zone address).2.index)) ∧
    (¬ last → (unplugOutcome p service zone address).2.index = p.index) := by
  intro z key last
  unfold unplugOutcome at h ⊢
  dsimp only at h ⊢
  by_cases both : last
  · rw [if_pos (by rw [Bool.and_eq_true]; exact both)] at h ⊢
    refine ⟨fun _ => ?_, fun no => absurd both no⟩
    cases soft : p.index.softDelete service (some z) with
    | ok r =>
      obtain ⟨n, ix⟩ := r
      exact ⟨n, rfl⟩
    | error e =>
      rw [soft] at h
      cases h
  · rw [if_neg (by rw [Bool.and_eq_true]; exact both)]
    exact ⟨fun yes => absurd yes both, fun _ => rfl⟩

end Outcome

/-- An unplug that answers, on a store registry calls reach, leaves the store as its sweep left
it with the endpoint key gone. It soft-deletes the zone's rows when it removed the key and the
zone holds no endpoint key after it, and leaves the index as it was otherwise. From then on, as
long as no registry call plugs the key again, no query of the service lists an endpoint with
that address in the zone. -/
theorem unplug_removes_and_hides {p : Plane} (reached : Interleaved p.keyspace p.policy p.store) :
    let z := zoneOrDefault zone
    let key := p.keyspace.nodeKey service z address
    let t := p.store.expire p.clock
    let run := (unplug service zone address).exec p
    run.1 = .ok () →
      (∀ k, run.2.store.find? k = if k = key then none else t.find? k) ∧
      ((t.find? key).isSome ∧ (∀ a, run.2.store.find? (p.keyspace.nodeKey service z a) = none) →
        ∃ n, p.index.softDelete service (some z) = .ok (n, run.2.index)) ∧
      (¬ ((t.find? key).isSome ∧ ∀ a, run.2.store.find? (p.keyspace.nodeKey service z a) = none) →
        run.2.index = p.index) ∧
      ∀ q : Plane, q.keyspace = p.keyspace →
        CallsWithoutPlug p.keyspace p.policy key run.2.store q.store →
        ∀ zo snap rev, ((query service zo none).exec q).1 = .ok (snap, rev) →
          ∀ view, (z, view) ∈ snap.zones → ∀ e ∈ view.endpoints, e.address ≠ address := by
  intro z key t run ok
  have hc := reached.reachable.consistent
  obtain ⟨hz, ha⟩ := unplug_checked ok
  have shape := exec_unplug hc hz ha
  have answered : (unplugOutcome p service zone address).1 = .ok () :=
    (congrArg Prod.fst shape).symm.trans ok
  have store : run.2.store = (p.store.delete p.clock key).2 :=
    (congrArg (·.2.store) shape).trans unplugOutcome_store
  have index : run.2.index = (unplugOutcome p service zone address).2.index :=
    congrArg (·.2.index) shape
  have deleted : Interleaved p.keyspace p.policy (p.store.delete p.clock key).2 :=
    reached.call (.unplug p.clock service z address hz ha)
  -- the read after the delete found nothing exactly when the zone holds no endpoint key
  have last := lastEndpoint_read_empty_iff deleted hz
  obtain ⟨soft, kept⟩ := unplugOutcome_index answered
  rw [index, store]
  refine ⟨fun k => Store.delete_find? hc k, fun both => soft ⟨both.1, last.2 both.2⟩,
    fun notBoth => kept fun both => notBoth ⟨both.1, last.1 both.2⟩, ?_⟩
  -- hiding: the key stays gone, and a listed endpoint has its key held
  intro q hks calls zo snap rev hq view hzv e he same
  have gone : (p.store.delete p.clock key).2.held key = none := by
    rw [Store.held, Store.delete_find? hc key, if_pos rfl]
    rfl
  have goneLater := calls.held_none deleted (p.keyspace.decode_nodeKey hz ha) gone
  have listed := query_lists_held (hks ▸ calls.interleaved deleted) hq hzv he
  rw [same, hks, goneLater] at listed
  cases listed

/-- An unplug of the one endpoint of `orders:1.0` in `dc-1`, plugged through the store: the key
is gone, and no query of the service lists the address in the zone. -/
theorem unplugged_endpoint_unlisted :
    let e : Endpoint := { address := "10.0.0.5:9000" }
    let p : Plane :=
      { store := (Store.Call.txn 0 (endpointWrite
          (KeySpace.standard.nodeKey "orders:1.0" "dc-1" "10.0.0.5:9000") e.text 0)).apply
            (Store.make 0 0) }
    let run := (unplug "orders:1.0" "dc-1" "10.0.0.5:9000").exec p
    Interleaved p.keyspace p.policy p.store ∧ run.1 = .ok () ∧
      run.2.store.find? (KeySpace.standard.nodeKey "orders:1.0" "dc-1" "10.0.0.5:9000") = none ∧
      ∀ zo snap rev, ((query "orders:1.0" zo none).exec run.2).1 = .ok (snap, rev) →
        ∀ view, ("dc-1", view) ∈ snap.zones → ∀ e' ∈ view.endpoints,
          e'.address ≠ "10.0.0.5:9000" := by
  intro e p run
  have hz : checkServiceZone "orders:1.0" "dc-1" = .ok () := rfl
  have ha : p.policy.check "10.0.0.5:9000" = .ok () := rfl
  have reached : Interleaved p.keyspace p.policy p.store :=
    (Interleaved.make 0 0).call (.endpoint 0 "orders:1.0" "dc-1" e 0 hz ha)
  -- the run is computed by the kernel; an answer of type unit is the unit
  have answers : run.1.toBool = true := by decide +kernel
  have ok : run.1 = .ok () := by
    cases h : run.1 with
    | ok u => rfl
    | error err =>
      rw [h] at answers
      cases answers
  obtain ⟨frame, -, -, hides⟩ := unplug_removes_and_hides reached ok
  have kept : run.2.keyspace = p.keyspace :=
    (congrArg (·.2.keyspace) (exec_unplug reached.reachable.consistent hz ha)).trans
      unplugOutcome_keyspace
  refine ⟨reached, ok, ?_, fun zo snap rev hq => hides run.2 kept (.refl _) zo snap rev hq⟩
  rw [frame]
  exact if_pos rfl

end ControlPlane
