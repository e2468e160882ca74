import ControlPlane.Proofs.Registry.Plugged
import ControlPlane.Proofs.Store.PrefixRange
import ControlPlane.Registry.Discover

/-!
# A plugged endpoint is discovered

A snapshot is assembled from one read of the swept store, entry by entry. Over a store that
registry calls reach, no entry of that read stops it: descriptor keys hold descriptors
(`DescriptorsFresh`) and endpoint keys hold endpoints (`EndpointsRead`). So the snapshot of a
zone answers, and lists every endpoint whose key the swept store holds (`snapshot_lists`).

`plugged_endpoint_is_discovered` puts this together with what a plug that answers leaves
(`plugAll_plugged`): right after it, each zone of the plug, its zone defaulted, has the
endpoint's key under the plug's lease, its descriptor under the zone's hash, an active and
verified row, and a query of the zone lists the endpoint as it was plugged.
-/

namespace ControlPlane

open ControlPlane.Action

/-! ## Zones of endpoints -/

/-- The endpoint is among those gathered for the zone. -/
def Lists (zones : List (String × List Endpoint)) (zone : String) (e : Endpoint) : Prop :=
  ∃ es, (zone, es) ∈ zones ∧ e ∈ es

section

variable {zones : List (String × List Endpoint)} {zone : String} {e : Endpoint}

/-- Adding an endpoint keeps every endpoint already listed. -/
theorem Lists.add (h : Lists zones zone e) (zone' : String) (e' : Endpoint) :
    Lists (addEndpoint zone' e' zones) zone e := by
  induction zones with
  | nil =>
    obtain ⟨es, hmem, -⟩ := h
    cases hmem
  | cons head rest ih =>
    obtain ⟨es, hmem, he⟩ := h
    obtain ⟨z, es₀⟩ := head
    simp only [addEndpoint]
    split
    · -- the head's zone grows at its end
      rcases List.mem_cons.1 hmem with hhead | hrest
      · cases hhead
        exact ⟨es ++ [e'], List.mem_cons_self, List.mem_append_left _ he⟩
      · exact ⟨es, List.mem_cons_of_mem _ hrest, he⟩
    · split
      · exact ⟨es, List.mem_cons_of_mem _ hmem, he⟩
      · rcases List.mem_cons.1 hmem with hhead | hrest
        · exact ⟨es, hhead ▸ List.mem_cons_self, he⟩
        · obtain ⟨es', hm, he'⟩ := ih ⟨es, hrest, he⟩
          exact ⟨es', List.mem_cons_of_mem _ hm, he'⟩

/-- An added endpoint is listed in its zone. -/
theorem lists_addEndpoint (zone : String) (e : Endpoint) :
    ∀ zones, Lists (addEndpoint zone e zones) zone e
  | [] => ⟨[e], List.mem_singleton_self _, List.mem_singleton_self _⟩
  | (z, es) :: rest => by
    simp only [addEndpoint]
    split
    · rename_i hz
      rw [beq_iff_eq] at hz
      subst hz
      exact ⟨es ++ [e], List.mem_cons_self, List.mem_append_right _ (List.mem_singleton_self _)⟩
    · split
      · exact ⟨[e], List.mem_cons_self, List.mem_singleton_self _⟩
      · obtain ⟨es', hm, he⟩ := lists_addEndpoint zone e rest
        exact ⟨es', List.mem_cons_of_mem _ hm, he⟩

end

/-! ## Gathering a read -/

/-- An entry that a snapshot of the service takes in without failing: as a descriptor key of
the service it holds a descriptor, as an endpoint key an endpoint. -/
structure Gatherable (ks : KeySpace) (service : String) (kv : KeyValue) : Prop where
  descriptor : ∀ zone, ks.decode kv.key = some ⟨service, zone, .descriptor⟩ →
    ∃ d, Descriptor.read? kv.value = some d
  endpoint : ∀ zone a, ks.decode kv.key = some ⟨service, zone, .node a⟩ →
    ∃ e, Endpoint.read? kv.value = some e

theorem Resolver.resolve_none (r : Resolver) {key value : String} {e : Endpoint}
    (h : Endpoint.read? value = some e) : r.resolve key value none = .ok e := by
  simp only [Resolver.resolve, Resolver.decode, h]
  rfl

section

variable {ks : KeySpace} {r : Resolver} {service : String}

/-- One entry taken in: every endpoint listed stays listed, and an endpoint key of the service
adds its endpoint to its zone. -/
theorem Gathered.add_lists {kv : KeyValue} (hg : Gatherable ks service kv) (g : Gathered) :
    ∃ g', Gathered.add ks r service none g kv = .ok g' ∧
      (∀ zone e, Lists g.zones zone e → Lists g'.zones zone e) ∧
      ∀ zone a e, ks.decode kv.key = some ⟨service, zone, .node a⟩ →
        Endpoint.read? kv.value = some e → Lists g'.zones zone e := by
  unfold Gathered.add
  cases hk : ks.decode kv.key with
  | none => exact ⟨g, rfl, fun _ _ h => h, fun _ _ _ h => nomatch h⟩
  | some k =>
    obtain ⟨service', zone', suffix⟩ := k
    by_cases hs : service' = service
    · subst hs
      simp only [bne_self_eq_false, Bool.false_eq_true, if_false]
      cases suffix with
      | descriptor =>
        obtain ⟨d, hd⟩ := hg.descriptor zone' hk
        simp only [hd]
        exact ⟨_, rfl, fun _ _ h => h, fun _ _ _ hk' _ => nomatch hk'⟩
      | node a =>
        obtain ⟨e, he⟩ := hg.endpoint zone' a hk
        rw [r.resolve_none he]
        refine ⟨_, rfl, fun _ _ h => h.add _ _, fun zone a' e' hk' he' => ?_⟩
        cases hk'
        rw [he] at he'
        cases he'
        exact lists_addEndpoint _ _ _
    · simp only [bne_iff_ne, ne_eq, hs, not_false_eq_true, if_true]
      refine ⟨g, rfl, fun _ _ h => h, fun _ _ _ hk' _ => ?_⟩
      cases hk'
      exact absurd rfl hs

/-- A read whose entries are all taken in is gathered to the end, listing the endpoint of every
endpoint key of the service it holds. -/
theorem foldlM_add_lists :
    ∀ (kvs : List KeyValue) (g : Gathered), (∀ kv ∈ kvs, Gatherable ks service kv) →
      ∃ g', kvs.foldlM (Gathered.add ks r service none) g = .ok g' ∧
        (∀ zone e, Lists g.zones zone e → Lists g'.zones zone e) ∧
        ∀ kv ∈ kvs, ∀ zone a e, ks.decode kv.key = some ⟨service, zone, .node a⟩ →
          Endpoint.read? kv.value = some e → Lists g'.zones zone e
  | [], g, _ => ⟨g, rfl, fun _ _ h => h, nofun⟩
  | kv :: kvs, g, hg => by
    obtain ⟨g₁, h₁, keep₁, new₁⟩ := Gathered.add_lists (r := r) (hg kv List.mem_cons_self) g
    obtain ⟨g₂, h₂, keep₂, new₂⟩ :=
      foldlM_add_lists kvs g₁ fun kv' h => hg kv' (List.mem_cons_of_mem _ h)
    refine ⟨g₂, ?_, fun zone e h => keep₂ zone e (keep₁ zone e h), fun kv' hkv' => ?_⟩
    · rw [List.foldlM_cons, h₁]
      exact h₂
    · rcases List.mem_cons.1 hkv' with rfl | hkv'
      · exact fun zone a e hk he => keep₂ _ _ (new₁ zone a e hk he)
      · exact new₂ kv' hkv'

/-- A snapshot assembled from entries that are all taken in answers, and the zone of each
endpoint key of the service lists its endpoint. -/
theorem assembleSnapshot_lists {kvs : List KeyValue} {kv : KeyValue} {zone a : String}
    {e : Endpoint} (hg : ∀ kv ∈ kvs, Gatherable ks service kv) (hkv : kv ∈ kvs)
    (hk : ks.decode kv.key = some ⟨service, zone, .node a⟩)
    (he : Endpoint.read? kv.value = some e) :
    ∃ snap, assembleSnapshot ks r service none kvs = .ok snap ∧
      ∃ view, (zone, view) ∈ snap.zones ∧ e ∈ view.endpoints := by
  obtain ⟨g, hfold, -, found⟩ := foldlM_add_lists (r := r) kvs {} hg
  obtain ⟨es, hmem, hes⟩ := found kv hkv zone a e hk he
  unfold assembleSnapshot
  rw [hfold]
  exact ⟨_, rfl, _, List.mem_map.2 ⟨(zone, es), hmem, rfl⟩, hes⟩

end

/-! ## The stores registry calls reach are read whole -/

section

variable {ks : KeySpace} {policy : AddressPolicy} {s : Store}

/-- Every entry of a store that registry calls reach is taken in by a snapshot of any
service. -/
theorem Interleaved.gatherable (h : Interleaved ks policy s) (service : String) {kv : KeyValue}
    (hkv : kv ∈ s.entries) : Gatherable ks service kv := by
  have found : s.find? kv.key = some kv :=
    find?_of_mem h.reachable.consistent.entries_sorted hkv
  refine ⟨fun zone hk => ?_, fun zone a hk => ?_⟩
  · obtain ⟨-, d, hv, -⟩ := h.descriptorsFresh kv.key service zone kv hk found
    exact ⟨d, hv ▸ Descriptor.read?_text d⟩
  · obtain ⟨e, he, -⟩ := h.endpointsRead kv.key service zone a hk kv.value kv.lease
      (by simp only [Store.held, found, Option.map_some])
    exact ⟨e, he⟩

theorem Interleaved.expire (h : Interleaved ks policy s) (now : Nat) :
    Interleaved ks policy ((s.expire now).publish) :=
  h.call (.read now (RangeRequest.startingWith ""))

end

theorem scanStart_zone {ks : KeySpace} {service zone : String}
    (hz : checkServiceZone service zone = .ok ()) :
    scanStart ks service (some zone) = .ok (ks.zoneScanStart service zone) := by
  obtain ⟨hs, hz⟩ := checkServiceZone_ok hz
  simp only [scanStart, hs, hz]
  rfl

/-- A snapshot of a checked zone, over a store that registry calls reach, answers, and lists
every endpoint whose key the swept store holds. -/
theorem snapshot_lists {p : Plane} {policy : AddressPolicy}
    (reached : Interleaved p.keyspace policy p.store) {service zone : String} {e : Endpoint}
    (hz : checkServiceZone service zone = .ok ()) (ha : policy.check e.address = .ok ())
    (held : ∃ l, (p.store.expire p.clock).held (p.keyspace.nodeKey service zone e.address) =
      some (e.text, l)) :
    Triple (· = p) (snapshot service (some zone) none)
      (fun r _ => ∃ view, (zone, view) ∈ r.1.zones ∧ e ∈ view.endpoints) (fun _ => False) := by
  obtain ⟨l, held⟩ := held
  -- the endpoint key is among the keys read, with the endpoint's text
  have hprefix : (p.keyspace.zoneScanStart service zone).toList <+:
      (p.keyspace.nodeKey service zone e.address).toList := by
    obtain ⟨hs, hz'⟩ := checkServiceZone_ok hz
    have readable : ServiceKey.Readable ⟨service, zone, .node e.address⟩ :=
      ServiceKey.readable_of_checks hz fun a h => by cases h; exact ha
    exact (p.keyspace.prefix_zoneScanStart readable (segment_of_checkService hs).noSlash
      (segment_of_checkZone hz').noSlash).2 ⟨rfl, rfl⟩
  have sorted : EntriesSorted (p.store.expire p.clock).entries :=
    (reached.expire p.clock).reachable.consistent.entries_sorted
  have read : ∀ kv' ∈ ((p.store.expire p.clock).range
      (.startingWith (p.keyspace.zoneScanStart service zone))).kvs,
      kv' ∈ (p.store.expire p.clock).entries := by
    intro kv' h
    rw [Store.range_startingWith] at h
    exact (List.mem_filter.1 h).1
  obtain ⟨kv, hkv, hkey⟩ := Store.mem_range_startingWith hprefix (by rw [held]; rfl)
  have hvalue : kv.value = e.text := by
    have own : (p.store.expire p.clock).held kv.key = some (kv.value, kv.lease) := by
      simp only [Store.held, Store.find?, find?_of_mem sorted (read kv hkv), Option.map_some]
    rw [hkey, held] at own
    exact (Prod.mk.inj (Option.some.inj own)).1.symm
  have hk : p.keyspace.decode kv.key = some ⟨service, zone, .node e.address⟩ := by
    rw [hkey]
    exact p.keyspace.decode_nodeKey hz ha
  have hread : Endpoint.read? kv.value = some e := by
    rw [hvalue]
    exact Endpoint.read?_text e
  obtain ⟨snap, hsnap, found⟩ := assembleSnapshot_lists (r := p.resolver)
    (fun kv' h => (reached.expire p.clock).gatherable service (read kv' h)) hkv hk hread
  -- the run: the start, the read, an answer with entries, the assembly
  unfold snapshot
  refine .get_bind fun p₀ => .assume fun q hq => ?_
  obtain ⟨rfl, rfl⟩ := hq
  refine .ofExcept_ok_bind (scanStart_zone hz) ?_
  refine .bind (fun r _ => r = (q.store.expire q.clock).range
      (.startingWith (q.keyspace.zoneScanStart service zone)))
    (.onStore_ok fun _ h => ?_) fun r => .assume fun _ hr => ?_
  · obtain ⟨rfl, -⟩ := h
    exact ⟨_, rfl, rfl⟩
  subst hr
  refine .ite (fun empty => .throw_bind fun _ _ => ?_) fun _ => ?_
  · rw [List.isEmpty_iff.1 empty] at hkv
    cases hkv
  exact .ofExcept_ok_bind hsnap (.pure fun _ _ => found)

/-! ## Plug, then query -/

/-- Right after a plug that answers, over a store that registry calls reach, each of its
descriptors, in its zone defaulted, is in place: its endpoint key holds the endpoint's text under
the plug's lease (none when the lease is 0), the stored descriptor of the zone hashes as the
descriptor does, the zone has a row and each of its rows is active, verified and under that hash,
which a lookup of the zone finds whenever the index answers it, and a query of the zone answers
with the endpoint among the zone's endpoints, every field as it was plugged. -/
theorem plugged_endpoint_is_discovered {p q : Plane}
    (reached : Interleaved p.keyspace p.policy p.store) {descs : List Descriptor} {e : Endpoint}
    {ttl : Int} {lease : LeaseId} {g : LeaseGrant}
    (run : (plugAll descs e ttl lease).exec p = (.ok g, q)) (d : Descriptor) (hd : d ∈ descs) :
    q.store.held (q.keyspace.nodeKey d.service (zoneOrDefault d.zone) e.address) =
        some (e.text, g.id) ∧
      (∃ kv stored, q.store.find? (q.keyspace.descriptorKey d.service (zoneOrDefault d.zone)) =
          some kv ∧ Descriptor.read? kv.value = some stored ∧
        stored.computeHash = { d with zone := zoneOrDefault d.zone }.computeHash) ∧
      ((∃ r ∈ q.index.services, r.service = d.service ∧ r.zone = zoneOrDefault d.zone) ∧
        ∀ r ∈ q.index.services, r.service = d.service → r.zone = zoneOrDefault d.zone →
          r.status = .active ∧ r.verified = true ∧
          r.contentHash = { d with zone := zoneOrDefault d.zone }.computeHash) ∧
      (q.index.Answers .find → ∃ r, q.index.find d.service (zoneOrDefault d.zone) = .ok (some r) ∧
        r.status = .active ∧ r.verified = true ∧
        r.contentHash = { d with zone := zoneOrDefault d.zone }.computeHash) ∧
      ∃ snap rev, ((query d.service (some (zoneOrDefault d.zone)) none).exec q).1 =
          .ok (snap, rev) ∧
        ∃ view, (zoneOrDefault d.zone, view) ∈ snap.zones ∧ e ∈ view.endpoints := by
  have outcome := (plugAll_plugged descs e ttl lease).run p ⟨rfl, rfl, reached⟩
  rw [run] at outcome
  obtain ⟨ha, -, ds, hds, plugged⟩ := outcome
  -- the descriptor as the plug prepared it: its zone defaulted, its hash filled in
  obtain ⟨d', hd', hprep⟩ := mapM_prepareDescriptor_mem hds d hd
  obtain ⟨-, prepared⟩ := prepareDescriptor_eq hprep
  have hhash : { d with zone := zoneOrDefault d.zone }.computeHash = d'.contentHash := by
    rw [prepared]
    rfl
  have hservice : d.service = d'.service := by
    rw [prepared]
    rfl
  have hzone : zoneOrDefault d.zone = d'.zone := by
    rw [prepared]
    rfl
  rw [hhash, hservice, hzone]
  have hk : q.keyspace = p.keyspace := plugged.enrolled.keyspace
  have held := plugged.endpoints _ hd'
  rw [← hk] at held
  refine ⟨held, ?_, plugged.rows.settled _ hd',
    fun answers => Index.find_settled answers (plugged.rows.settled _ hd'), ?_⟩
  · rw [hk]
    exact plugged.observed _ hd'
  -- the query reads the zone of the store the plug left at rest
  have reached' : Interleaved q.keyspace p.policy q.store := by
    rw [hk]
    exact plugged.enrolled.reached
  have listed := (snapshot_lists (p := q) reached' (prepareDescriptor_checked hprep) ha
    ⟨g.id, by rw [Store.expire_atRest plugged.atRest]; exact held⟩).run q rfl
  rw [query, exec_recorded]
  revert listed
  rcases (snapshot d'.service (some d'.zone) none).exec q with ⟨_ | ⟨snap, rev⟩, _⟩
  · exact False.elim
  · exact fun found => ⟨snap, rev, rfl, found⟩

/-- A plug with no zone, on an empty store, then a query of the default zone: the endpoint is
listed with its quoted and escaped fields as they were plugged. -/
theorem plug_then_query_lists_endpoint :
    let d : Descriptor := { service := "orders:1.0", kind := "grpc", proto := "service Order" }
    let e : Endpoint := { kind := "grpc", address := "10.0.0.5:9000",
                          config := "weight=\"5\" \\ ü", proto := "service Order" }
    let p : Plane := { store := Store.make 0 0 }
    ∃ snap rev, ((query "orders:1.0" (some "default") none).exec
        ((plugAll [d] e 0 0).exec p).2).1 = .ok (snap, rev) ∧
      ∃ view, ("default", view) ∈ snap.zones ∧ e ∈ view.endpoints := by
  intro d e p
  have answered : ((plugAll [d] e 0 0).exec p).1.toOption.isSome = true := by decide +kernel
  rcases run : (plugAll [d] e 0 0).exec p with ⟨_ | g, q⟩
  · rw [run] at answered
    cases answered
  · exact (plugged_endpoint_is_discovered (Interleaved.make 0 0) run d
      (List.mem_singleton_self _)).2.2.2.2

end ControlPlane
