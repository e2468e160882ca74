import ControlPlane.Proofs.Registry.Query

/-!
# Addresses as a client sees them

An endpoint registers one address, and a client on another network may have to reach it
through another. The mapping table answers, for an address and a client, the address the client
should use (`Resolver.mapAddress`): the address itself when there is no client, when it is not a
socket address, or when no rule covers the client and the endpoint; otherwise the destination of
the first rule in table order that covers them, on the endpoint's own port. A rule covers a
client and an endpoint when the client lies in the rule's source network and, when the rule
names an endpoint network, the endpoint lies in that one (`Mapping.Covers`).

A query for a client answers what the query for no client answers, with every endpoint address
mapped for the client and nothing else changed, and leaves the same plane
(`client_addresses_mapped`): the rewrite acts on one endpoint at a time and never moves an
endpoint between zones.

1. `Mapping.Covers`, `Mapping.applies_iff`: when a rule applies.
2. `Resolver.mapAddress_of_parse_none`, `Resolver.mapAddress_of_uncovered`,
   `Resolver.mapAddress_of_covered`: the address answered.
3. `ServiceSnapshot.mapAddresses`: a snapshot with its endpoint addresses rewritten.
4. `Snapshot.endpointOf_client`, `foldl_addEndpoint_map`, `assembleSnapshot_client`: one entry,
   the grouping by zone, the snapshot; `query_client`: the query.
-/

namespace ControlPlane

namespace Mapping

/-- A rule covers a client and an endpoint address: the client lies in the rule's source network
and, when the rule names an endpoint network, the endpoint lies in that one. -/
def Covers (m : Mapping) (client endpoint : IpAddr) : Prop :=
  m.srcNet.contains client = true ∧ ∀ net, m.endpointNet = some net → net.contains endpoint = true

theorem applies_iff {m : Mapping} {client endpoint : IpAddr} :
    m.applies client endpoint = true ↔ m.Covers client endpoint := by
  unfold applies Covers
  cases h : m.endpointNet with
  | none => simp
  | some net => simp

end Mapping

/-! ## The address answered -/

namespace Resolver

variable (r : Resolver) {address : String} {c : IpAddr} {ep : SocketAddr}

@[simp] theorem mapAddress_none (address : String) : r.mapAddress address none = address := rfl

theorem mapAddress_of_parse_none (h : SocketAddr.parse? address = none) (c : IpAddr) :
    r.mapAddress address (some c) = address := by
  simp [mapAddress, h]

theorem mapAddress_of_uncovered (h : SocketAddr.parse? address = some ep)
    (uncovered : ∀ m ∈ r.mappings, ¬ m.Covers c ep.ip) : r.mapAddress address (some c) = address := by
  have nothing : r.mappings.find? (·.applies c ep.ip) = none :=
    List.find?_eq_none.2 fun m hm applies => uncovered m hm (Mapping.applies_iff.1 applies)
  simp [mapAddress, h, nothing]

/-- The first rule in table order that covers the client and the endpoint rewrites the address:
its destination, on the endpoint's port. -/
theorem mapAddress_of_covered (h : SocketAddr.parse? address = some ep)
    (i : Fin r.mappings.length) (covers : r.mappings[i].Covers c ep.ip)
    (before : ∀ j : Fin r.mappings.length, j < i → ¬ r.mappings[j].Covers c ep.ip) :
    r.mapAddress address (some c) = SocketAddr.render ⟨r.mappings[i].destIp, ep.port, 0⟩ := by
  -- the search in table order stops at rule `i`
  have found : r.mappings.find? (·.applies c ep.ip) = some r.mappings[i] := by
    refine List.find?_eq_some_iff_getElem.2 ⟨Mapping.applies_iff.2 covers, i, i.isLt, rfl, ?_⟩
    intro j hj
    have earlier := before ⟨j, Nat.lt_trans hj i.isLt⟩ hj
    simpa [← Mapping.applies_iff] using earlier
  simp [mapAddress, h, found]

end Resolver

/-! ## Snapshots with their addresses rewritten -/

/-- An endpoint with its address rewritten. -/
def Endpoint.readdress (f : String → String) (e : Endpoint) : Endpoint :=
  { e with address := f e.address }

/-- A zone with every endpoint's address rewritten. -/
def ZoneView.mapAddresses (f : String → String) (v : ZoneView) : ZoneView :=
  { v with endpoints := v.endpoints.map (Endpoint.readdress f) }

/-- A snapshot with every endpoint's address rewritten, its zones and descriptors kept. -/
def ServiceSnapshot.mapAddresses (f : String → String) (s : ServiceSnapshot) : ServiceSnapshot :=
  { s with zones := s.zones.map fun z => (z.1, z.2.mapAddresses f) }

namespace Snapshot

variable (ks : KeySpace) (r : Resolver) (service : String) (c : IpAddr)

/-- For a client, an endpoint entry is the entry for no client with its address mapped. -/
theorem endpointOf_client (kv : KeyValue) :
    endpointOf ks r service (some c) kv =
      (endpointOf ks r service none kv).map fun ze =>
        (ze.1, ze.2.readdress (r.mapAddress · (some c))) := by
  unfold endpointOf
  split
  · split
    · simp only [Option.map_map]
      rfl
    · rfl
  · rfl

end Snapshot

/-- Adding an endpoint commutes with rewriting endpoints: the zone an endpoint goes to depends on
its zone alone. -/
theorem addEndpoint_map (f : Endpoint → Endpoint) (zone : String) (e : Endpoint) :
    ∀ zs : List (String × List Endpoint),
      addEndpoint zone (f e) (zs.map fun z => (z.1, z.2.map f)) =
        (addEndpoint zone e zs).map fun z => (z.1, z.2.map f)
  | [] => rfl
  | (z, es) :: rest => by
    simp only [List.map_cons, addEndpoint]
    split_ifs
    · simp
    · simp
    · simp [addEndpoint_map f zone e rest]

/-- Grouping rewritten endpoints by zone is grouping them and then rewriting. -/
theorem foldl_addEndpoint_map (f : Endpoint → Endpoint) :
    ∀ (eps : List (String × Endpoint)) (zs : List (String × List Endpoint)),
      (eps.map fun p => (p.1, f p.2)).foldl (fun zs p => addEndpoint p.1 p.2 zs)
          (zs.map fun z => (z.1, z.2.map f)) =
        (eps.foldl (fun zs p => addEndpoint p.1 p.2 zs) zs).map fun z => (z.1, z.2.map f)
  | [], zs => rfl
  | (zone, e) :: eps, zs => by
    simp only [List.map_cons, List.foldl_cons]
    rw [addEndpoint_map, foldl_addEndpoint_map f eps]

/-- The snapshot assembled for a client is the one for no client with its addresses mapped; a
failure is the same failure. -/
theorem assembleSnapshot_client (ks : KeySpace) (r : Resolver) (service : String) (c : IpAddr)
    (kvs : List KeyValue) :
    assembleSnapshot ks r service (some c) kvs =
      (assembleSnapshot ks r service none kvs).map
        (·.mapAddresses (r.mapAddress · (some c))) := by
  -- the endpoints gathered for the client are those for no client, rewritten
  have endpoints : kvs.filterMap (Snapshot.endpointOf ks r service (some c)) =
      (kvs.filterMap (Snapshot.endpointOf ks r service none)).map fun ze =>
        (ze.1, ze.2.readdress (r.mapAddress · (some c))) := by
    rw [List.map_filterMap]
    exact List.filterMap_congr fun kv _ => Snapshot.endpointOf_client ks r service c kv
  unfold assembleSnapshot
  rw [Snapshot.foldlM_add, Snapshot.foldlM_add]
  cases kvs.findSome? (Snapshot.damage ks service) with
  | some e => rfl
  | none =>
    have grouped := foldl_addEndpoint_map (Endpoint.readdress (r.mapAddress · (some c)))
      (kvs.filterMap (Snapshot.endpointOf ks r service none)) []
    simp only [List.map_nil] at grouped
    simp only [Except.ok_bind_eq, endpoints, grouped, pure, Except.pure, Except.map,
      ServiceSnapshot.mapAddresses, ZoneView.mapAddresses, List.map_map]
    rfl

open ControlPlane.Action in
/-- A snapshot for a client reads what the snapshot for no client reads and answers its snapshot
with the addresses mapped, or the same failure. -/
theorem snapshot_client (service : String) (zone : Option String) (c : IpAddr) (p : Plane) :
    (snapshot service zone (some c)).exec p =
      (((snapshot service zone none).exec p).1.map
        (fun a => (a.1.mapAddresses (p.resolver.mapAddress · (some c)), a.2)),
        ((snapshot service zone none).exec p).2) := by
  unfold snapshot
  rw [exec_get_bind, exec_get_bind]
  cases hstart : scanStart p.keyspace service zone with
  | error e =>
    rw [exec_bind, exec_bind, exec_ofExcept]
    rfl
  | ok start =>
    rw [exec_bind, exec_bind, exec_ofExcept]
    dsimp only
    rw [exec_bind, exec_bind, exec_onStore, Store.read_eq]
    dsimp only
    -- the read is the same; only the assembling depends on the client
    by_cases empty : ((p.store.expire p.clock).range (RangeRequest.startingWith start)).kvs.isEmpty
    · rw [if_pos empty, if_pos empty, exec_bind, exec_bind, exec_throw]
      rfl
    · rw [if_neg empty, if_neg empty, exec_bind, exec_bind, exec_ofExcept, exec_ofExcept,
        assembleSnapshot_client]
      cases assembleSnapshot p.keyspace p.resolver service none _ <;> rfl

theorem Metrics.recordResult_map {α β : Type} (m : Metrics) (o : Operation) (f : α → β)
    (r : Except Error α) : m.recordResult o (r.map f) = m.recordResult o r := by
  cases r <;> rfl

open ControlPlane.Action in
/-- A query for a client answers the query for no client with its addresses mapped, or the same
failure, and leaves the same plane. -/
theorem query_client (service : String) (zone : Option String) (c : IpAddr) (p : Plane) :
    (query service zone (some c)).exec p =
      (((query service zone none).exec p).1.map
        (fun a => (a.1.mapAddresses (p.resolver.mapAddress · (some c)), a.2)),
        ((query service zone none).exec p).2) := by
  rw [query, query, exec_recorded, exec_recorded, snapshot_client, Metrics.recordResult_map]

/-- Addresses as a client sees them, for every mapping table. Without a client, an address is
answered byte for byte; so is a text that does not read as a socket address, and a socket address
that no rule covers for the client. Otherwise the answer is the socket address made of the
destination of the first rule in table order that covers the client and the endpoint's address,
and the endpoint's port, written as text. A query of a service (or a zone) for a client answers
the query for no client with every endpoint address mapped so, zones, descriptors, order and
revision kept, fails exactly as it does, and leaves the same plane. -/
theorem client_addresses_mapped (r : Resolver) :
    (∀ address, r.mapAddress address none = address) ∧
    (∀ address c, SocketAddr.parse? address = none → r.mapAddress address (some c) = address) ∧
    (∀ address c ep, SocketAddr.parse? address = some ep →
      (∀ m ∈ r.mappings, ¬ m.Covers c ep.ip) → r.mapAddress address (some c) = address) ∧
    (∀ address c ep (i : Fin r.mappings.length), SocketAddr.parse? address = some ep →
      r.mappings[i].Covers c ep.ip → (∀ j : Fin r.mappings.length, j < i → ¬ r.mappings[j].Covers c ep.ip) →
      r.mapAddress address (some c) = SocketAddr.render ⟨r.mappings[i].destIp, ep.port, 0⟩) ∧
    (∀ p : Plane, p.resolver = r → ∀ service zone c,
      (query service zone (some c)).exec p =
        (((query service zone none).exec p).1.map
          (fun a => (a.1.mapAddresses (r.mapAddress · (some c)), a.2)),
          ((query service zone none).exec p).2)) := by
  refine ⟨r.mapAddress_none, fun _ c h => r.mapAddress_of_parse_none h c,
    fun _ _ _ h uncovered => r.mapAddress_of_uncovered h uncovered,
    fun _ _ _ i h covers before => r.mapAddress_of_covered h i covers before, ?_⟩
  rintro p rfl service zone c
  exact query_client service zone c p

/-- A client inside `10.0.0.0/8`, under one rule to `192.168.1.1`, sees `10.0.0.5:9000` at the
rule's destination on port 9000. -/
theorem client_in_source_network_sees_destination :
    let r : Resolver := ⟨[⟨⟨.v4 0x0A000000, 8⟩, .v4 0xC0A80101, none⟩]⟩
    let ep : SocketAddr := ⟨.v4 0x0A000005, 9000, 0⟩
    let c : IpAddr := .v4 0x0A010203
    SocketAddr.parse? "10.0.0.5:9000" = some ep ∧ r.mappings[0].Covers c ep.ip ∧
      r.mapAddress "10.0.0.5:9000" (some c) = SocketAddr.render ⟨.v4 0xC0A80101, 9000, 0⟩ := by
  intro r ep c
  have parsed : SocketAddr.parse? "10.0.0.5:9000" = some ep := rfl
  have covers : r.mappings[0].Covers c ep.ip := ⟨by decide, fun _ h => nomatch h⟩
  exact ⟨parsed, covers, (client_addresses_mapped r).2.2.2.1 _ c ep ⟨0, by decide⟩ parsed covers
    fun j hj => absurd hj (Nat.not_lt_zero _)⟩

end ControlPlane
