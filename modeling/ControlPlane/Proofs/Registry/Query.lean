import Mathlib.Data.Finset.Sort
import ControlPlane.Proofs.Plane.Triple
import ControlPlane.Proofs.Store.Invariant
import ControlPlane.Proofs.Store.PrefixRange
import ControlPlane.Proofs.Key.Codec
import ControlPlane.Registry.Discover

/-!
# What a query answers

A query reads the keys under its scan start once and assembles its snapshot in one pass over
them, entry by entry (`assembleSnapshot`). Here the answer is stated over the whole read at once
(`Snapshot.answer`), and the query is proved to give it (`query_eq_reference`). Over the entries
of the read, in key order:

* when there is none, the service is not found;
* otherwise the first entry of the service whose value does not read fails the query, a
  descriptor as a damaged descriptor, an endpoint naming its key;
* otherwise the snapshot has one zone for each zone with an endpoint key, ascending. Each carries
  the descriptor stored for it, or the bare one, and its endpoints in key order, each address the
  one the client should use. Keys that do not read back, or that belong to another service, are
  skipped, and a zone with only a descriptor is left out.

1. `Snapshot.damage`, `Snapshot.endpointOf`, `Snapshot.descriptorOf`: what one entry is to a
   snapshot; `Snapshot.reference`, `Snapshot.answer`: the snapshot and the answer of a read.
2. `mem_keys_addEndpoint`, `pairwise_addEndpoint`, `lookup_addEndpoint`: adding an endpoint is an
   insertion into a map from zones to endpoint lists, kept ascending.
3. `Snapshot.foldlM_add`: the pass over a read; `Snapshot.assembleSnapshot_eq`: its snapshot.
4. `query_eq_reference`.
-/

namespace ControlPlane

theorem Except.ok_bind_eq {ε α β : Type} (a : α) (f : α → Except ε β) :
    (Except.ok a >>= f) = f a := rfl

/-! ## Adding an endpoint to its zone -/

section

variable {zone z : String} {e : Endpoint}

/-- The zones after adding an endpoint: the endpoint's zone and those there before. -/
theorem mem_keys_addEndpoint : ∀ {zs : List (String × List Endpoint)},
    z ∈ (addEndpoint zone e zs).map (·.1) ↔ z = zone ∨ z ∈ zs.map (·.1)
  | [] => by simp [addEndpoint]
  | (z', es) :: rest => by
    simp only [addEndpoint]
    split
    · rename_i same
      rw [beq_iff_eq] at same
      subst same
      simp
    · split
      · simp
      · simp only [List.map_cons, List.mem_cons, mem_keys_addEndpoint]
        tauto

/-- Adding an endpoint keeps the zones strictly ascending. -/
theorem pairwise_addEndpoint : ∀ {zs : List (String × List Endpoint)},
    (zs.map (·.1)).Pairwise (· < ·) → ((addEndpoint zone e zs).map (·.1)).Pairwise (· < ·)
  | [], _ => List.pairwise_singleton _ _
  | (z', es) :: rest, sorted => by
    rw [List.map_cons, List.pairwise_cons] at sorted
    obtain ⟨above, sorted⟩ := sorted
    simp only [addEndpoint]
    split
    · rw [List.map_cons, List.pairwise_cons]
      exact ⟨above, sorted⟩
    · split
      · -- a new zone below the first one
        rename_i below
        rw [List.map_cons, List.map_cons, List.pairwise_cons, List.pairwise_cons]
        refine ⟨?_, above, sorted⟩
        intro k hk
        rcases List.mem_cons.1 hk with rfl | hk
        · exact below
        · exact lt_trans below (above k hk)
      · -- the zone goes further along
        rename_i ne notBelow
        have before : z' < zone :=
          lt_of_le_of_ne (not_lt.1 notBelow) fun h => ne (beq_iff_eq.2 h)
        rw [List.map_cons, List.pairwise_cons]
        refine ⟨fun k hk => ?_, pairwise_addEndpoint sorted⟩
        rcases mem_keys_addEndpoint.1 hk with rfl | hk
        · exact before
        · exact above k hk

/-- Adding an endpoint to a zone appends it to that zone's endpoints, creating the zone if need
be, and leaves every other zone as it was. -/
theorem lookup_addEndpoint : ∀ {zs : List (String × List Endpoint)},
    (zs.map (·.1)).Pairwise (· < ·) →
      (addEndpoint zone e zs).lookup z =
        if z = zone then some ((zs.lookup zone).getD [] ++ [e]) else zs.lookup z
  | [], _ => by
    by_cases h : z = zone
    · simp [addEndpoint, h]
    · simp [addEndpoint, List.lookup_cons, h, beq_eq_false_iff_ne.2 h]
  | (z', es) :: rest, sorted => by
    rw [List.map_cons, List.pairwise_cons] at sorted
    obtain ⟨above, sorted⟩ := sorted
    simp only [addEndpoint]
    split
    · rename_i same
      rw [beq_iff_eq] at same
      subst same
      by_cases h : z = z'
      · simp [h]
      · simp [List.lookup_cons, h, beq_eq_false_iff_ne.2 h]
    · rename_i ne
      have ne' : zone ≠ z' := fun h => ne (beq_iff_eq.2 h.symm)
      split
      · -- the new zone is below every zone there: it was not there
        rename_i below
        have absent : rest.lookup zone = none := List.lookup_eq_none_iff.2 fun p hp =>
          bne_iff_ne.2 (ne_of_lt (lt_trans below (above p.1 (List.mem_map_of_mem hp))))
        by_cases h : z = zone
        · subst h
          simp [List.lookup_cons, absent, beq_eq_false_iff_ne.2 ne']
        · simp [List.lookup_cons, h, beq_eq_false_iff_ne.2 h]
      · rw [List.lookup_cons, List.lookup_cons, lookup_addEndpoint sorted, List.lookup_cons]
        by_cases h : z = z'
        · subst h
          simp [ne'.symm]
        · rw [beq_eq_false_iff_ne.2 h]
          by_cases h' : z = zone
          · subst h'
            simp [beq_eq_false_iff_ne.2 ne']
          · simp [h']

/-- Adding endpoints one after another groups them by zone: the zones stay strictly ascending,
they are the zones there before and those of the endpoints added, and a zone's endpoints are the
ones it had followed by the added ones of the zone, in the order they came. -/
theorem foldl_addEndpoint : ∀ (eps : List (String × Endpoint)) (zs : List (String × List Endpoint)),
    (zs.map (·.1)).Pairwise (· < ·) →
      let zs' := eps.foldl (fun zs p => addEndpoint p.1 p.2 zs) zs
      (zs'.map (·.1)).Pairwise (· < ·) ∧
        (∀ z, z ∈ zs'.map (·.1) ↔ z ∈ zs.map (·.1) ∨ z ∈ eps.map (·.1)) ∧
        ∀ z, (zs'.lookup z).getD [] = (zs.lookup z).getD [] ++ (eps.filter (·.1 == z)).map (·.2)
  | [], zs, sorted => ⟨sorted, by simp, by simp⟩
  | (zone, e) :: eps, zs, sorted => by
    obtain ⟨sorted', members, grouped⟩ :=
      foldl_addEndpoint eps (addEndpoint zone e zs) (pairwise_addEndpoint sorted)
    refine ⟨sorted', fun z => ?_, fun z => ?_⟩
    · rw [List.foldl_cons, members, mem_keys_addEndpoint, List.map_cons, List.mem_cons]
      tauto
    · rw [List.foldl_cons, grouped, lookup_addEndpoint sorted, List.filter_cons]
      by_cases h : z = zone
      · subst h
        simp
      · simp [h, Ne.symm h]

/-- A list of pairs with distinct first parts is its first parts, each paired with what it looks
up. -/
theorem eq_map_lookup : ∀ {zs : List (String × List Endpoint)}, (zs.map (·.1)).Nodup →
    zs = (zs.map (·.1)).map fun z => (z, (zs.lookup z).getD [])
  | [], _ => rfl
  | (z, es) :: rest, distinct => by
    rw [List.map_cons, List.nodup_cons] at distinct
    obtain ⟨fresh, distinct⟩ := distinct
    rw [List.map_cons, List.map_cons, List.lookup_cons, beq_self_eq_true]
    -- the rest looks up as before: none of its zones is the first one
    congr 1
    conv_lhs => rw [eq_map_lookup distinct]
    apply List.map_congr_left
    intro z' hz'
    have hne : z' ≠ z := fun h => fresh (h ▸ hz')
    rw [List.lookup_cons, beq_eq_false_iff_ne.2 hne]

/-- Of pairs with distinct first parts, the first one found from the end is the one looked up. -/
theorem find?_reverse_eq_lookup {β : Type} : ∀ {l : List (String × β)}, (l.map (·.1)).Nodup →
    ∀ z, (l.reverse.find? (·.1 == z)).map (·.2) = l.lookup z := by
  intro l distinct z
  cases found : l.lookup z with
  | none =>
    rw [List.lookup_eq_none_iff] at found
    rw [List.find?_eq_none.2 fun p hp same => ?_]
    · rfl
    · have := found p (List.mem_reverse.1 hp)
      rw [bne_iff_ne] at this
      exact this (beq_iff_eq.1 same).symm
  | some b =>
    obtain ⟨l₁, l₂, rfl, -⟩ := List.lookup_eq_some_iff.1 found
    -- no pair after the one found has its first part
    have after : ∀ p ∈ l₂, (p.1 == z) = false := by
      intro p hp
      rw [List.map_append, List.map_cons, List.nodup_append] at distinct
      have := distinct.2.1
      rw [List.nodup_cons] at this
      refine beq_eq_false_iff_ne.2 fun h => this.1 ?_
      exact List.mem_map.2 ⟨p, hp, h⟩
    rw [List.reverse_append, List.reverse_cons, List.append_assoc, List.find?_append,
      List.find?_eq_none.2 fun p hp => by rw [after p (List.mem_reverse.1 hp)]; decide]
    simp

end

namespace Snapshot

variable (ks : KeySpace) (resolver : Resolver) (service : String) (client : Option IpAddr)

/-- The failure an entry gives a snapshot of the service: a descriptor key of the service whose
value is no descriptor fails it as damaged, an endpoint key of the service whose value is no
endpoint fails it naming the key. -/
def damage (kv : KeyValue) : Option Error :=
  match ks.decode kv.key with
  | some ⟨s, _, .descriptor⟩ =>
    if s = service ∧ (Descriptor.read? kv.value).isNone then
      some ⟨.systemError, "damaged service descriptor"⟩
    else none
  | some ⟨s, _, .node _⟩ =>
    if s = service ∧ (Endpoint.read? kv.value).isNone then some ⟨.damagedEndpointValue, kv.key⟩
    else none
  | none => none

/-- An endpoint key of the service: its zone, and its endpoint at the address the client should
use. -/
def endpointOf (kv : KeyValue) : Option (String × Endpoint) :=
  match ks.decode kv.key with
  | some ⟨s, z, .node _⟩ =>
    if s = service then
      (Endpoint.read? kv.value).map fun e => (z, { e with address := resolver.mapAddress e.address client })
    else none
  | _ => none

/-- A descriptor key of the service: its zone and its descriptor. -/
def descriptorOf (kv : KeyValue) : Option (String × Descriptor) :=
  match ks.decode kv.key with
  | some ⟨s, z, .descriptor⟩ => if s = service then (Descriptor.read? kv.value).map (z, ·) else none
  | _ => none

/-- The snapshot of the entries of a read: one zone for each zone with an endpoint, ascending,
with the descriptor stored for it or the bare one, and its endpoints in the read's order. -/
def reference (kvs : List KeyValue) : ServiceSnapshot :=
  let endpoints := kvs.filterMap (endpointOf ks resolver service client)
  let descriptors := kvs.filterMap (descriptorOf ks service)
  { service,
    zones := ((endpoints.map (·.1)).toFinset.sort).map fun z =>
      (z, { descriptor := (descriptors.lookup z).getD { service, zone := z },
            endpoints := (endpoints.filter (·.1 == z)).map (·.2) }) }

/-- The answer of a query of the service over the entries of its read, at the read's revision:
not found when there is no entry, the failure of the first damaged entry, else the snapshot. -/
def answer (kvs : List KeyValue) (rev : Revision) : Except Error (ServiceSnapshot × Revision) :=
  if kvs.isEmpty then .error ⟨.notFound, "no such service: " ++ service⟩
  else
    match kvs.findSome? (damage ks service) with
    | some e => .error e
    | none => .ok (reference ks resolver service client kvs, rev)

/-! ## One entry -/

/-- Taking in one entry: it fails with its damage, or adds its endpoint to its zone and its
descriptor to the descriptors. -/
theorem add_eq (g : Gathered) (kv : KeyValue) :
    Gathered.add ks resolver service client g kv =
      match damage ks service kv with
      | some e => .error e
      | none => .ok
          { zones := ((endpointOf ks resolver service client kv).map
              fun p => addEndpoint p.1 p.2 g.zones).getD g.zones,
            descriptors := ((descriptorOf ks service kv).map (· :: g.descriptors)).getD
              g.descriptors } := by
  unfold Gathered.add damage endpointOf descriptorOf
  cases hk : ks.decode kv.key with
  | none => rfl
  | some k =>
    obtain ⟨s, z, suffix⟩ := k
    by_cases hs : s = service
    · subst hs
      cases suffix with
      | descriptor => cases Descriptor.read? kv.value <;> simp <;> rfl
      | node a =>
        cases he : Endpoint.read? kv.value <;> simp [Resolver.resolve, Resolver.decode, he] <;> rfl
    · have other : (s != service) = true := bne_iff_ne.2 hs
      cases suffix <;> simp [hs, other] <;> rfl

/-- The pass over a read: it fails with the damage of its first damaged entry, or adds the read's
endpoints in order and puts its descriptors in front, the last one first. -/
theorem foldlM_add : ∀ (kvs : List KeyValue) (g : Gathered),
    kvs.foldlM (Gathered.add ks resolver service client) g =
      match kvs.findSome? (damage ks service) with
      | some e => .error e
      | none => .ok
          { zones := (kvs.filterMap (endpointOf ks resolver service client)).foldl
              (fun zs p => addEndpoint p.1 p.2 zs) g.zones,
            descriptors := (kvs.filterMap (descriptorOf ks service)).reverse ++ g.descriptors }
  | [], g => rfl
  | kv :: kvs, g => by
    rw [List.foldlM_cons, add_eq, List.findSome?_cons]
    cases damage ks service kv with
    | some e => rfl
    | none =>
      -- the entry is taken in as a value: the rest of the pass starts from it
      dsimp only
      rw [Except.ok_bind_eq, foldlM_add kvs]
      cases he : endpointOf ks resolver service client kv <;>
        cases hd : descriptorOf ks service kv <;> simp [he, hd]

/-! ## The snapshot of a read -/

/-- A descriptor entry of the service sits at its zone's descriptor key. -/
theorem key_of_descriptorOf {kv : KeyValue} {z : String} {d : Descriptor}
    (h : descriptorOf ks service kv = some (z, d)) :
    kv.key = ks.encode ⟨service, z, .descriptor⟩ := by
  unfold descriptorOf at h
  split at h
  · rename_i s z' hk
    split at h
    · rename_i same
      subst same
      obtain ⟨d', -, hd'⟩ := Option.map_eq_some_iff.1 h
      cases hd'
      exact (ks.eq_encode_of_decode hk).1
    · cases h
  · cases h

/-- In a read with its keys ascending, no zone has two descriptors. -/
theorem descriptor_zones_nodup {kvs : List KeyValue} (sorted : EntriesSorted kvs) :
    ((kvs.filterMap (descriptorOf ks service)).map (·.1)).Nodup := by
  apply List.pairwise_map.2
  apply List.pairwise_filterMap.2
  refine List.Pairwise.imp (fun {a a'} lt => ?_) sorted
  intro b hb b' hb' same
  have key := key_of_descriptorOf ks service (Option.mem_def.1 hb)
  have key' := key_of_descriptorOf ks service (Option.mem_def.1 hb')
  rw [same] at key
  rw [key, key'] at lt
  exact lt_irrefl _ lt

/-- The snapshot assembled from a read with its keys ascending: the failure of its first damaged
entry, or the reference snapshot. -/
theorem assembleSnapshot_eq {kvs : List KeyValue} (sorted : EntriesSorted kvs) :
    assembleSnapshot ks resolver service client kvs =
      match kvs.findSome? (damage ks service) with
      | some e => .error e
      | none => .ok (reference ks resolver service client kvs) := by
  unfold assembleSnapshot
  rw [foldlM_add]
  cases kvs.findSome? (damage ks service) with
  | some e => rfl
  | none =>
    rw [Except.ok_bind_eq]
    dsimp only
    show Except.ok _ = Except.ok _
    congr 1
    simp only [reference]
    congr 1
    set eps := kvs.filterMap (endpointOf ks resolver service client)
    obtain ⟨ascending, members, grouped⟩ := foldl_addEndpoint eps [] List.Pairwise.nil
    set zs := eps.foldl (fun zs p => addEndpoint p.1 p.2 zs) []
    -- the zones gathered are the zones of the endpoints, ascending
    have keys : zs.map (·.1) = (eps.map (·.1)).toFinset.sort :=
      List.Pairwise.eq_of_mem_iff ascending (List.sortedLT_iff_pairwise.1 (Finset.sortedLT_sort _))
        fun z => by rw [members, Finset.mem_sort, List.mem_toFinset]; simp
    rw [eq_map_lookup ascending.nodup, List.map_map, keys]
    apply List.map_congr_left
    intro z _
    have one := find?_reverse_eq_lookup (descriptor_zones_nodup ks service sorted) z
    simp only [Function.comp, grouped, List.append_nil, one, List.lookup_nil, Option.getD_none,
      List.nil_append]

end Snapshot

open ControlPlane.Action in
/-- A snapshot whose names pass their checks, with scan start `start`, answers what
`Snapshot.answer` says of the entries of the swept store under `start`. -/
theorem snapshot_eq_answer (p : Plane) (hc : p.store.Consistent) {service : String}
    {zone : Option String} (client : Option IpAddr) {start : String}
    (hstart : scanStart p.keyspace service zone = .ok start) :
    ((snapshot service zone client).exec p).1 =
      Snapshot.answer p.keyspace p.resolver service client
        ((p.store.expire p.clock).entries.filter fun kv => start.toList.isPrefixOf kv.key.toList)
        (p.store.expire p.clock).revision := by
  have sorted : EntriesSorted
      ((p.store.expire p.clock).entries.filter fun kv => start.toList.isPrefixOf kv.key.toList) :=
    hc.expire.entries_sorted.filter _
  unfold snapshot
  rw [exec_get_bind, exec_bind, exec_ofExcept, hstart]
  dsimp only
  rw [exec_bind, exec_onStore, Store.read_eq]
  dsimp only
  rw [Store.range_startingWith]
  have revision : ((p.store.expire p.clock).range (.startingWith start)).revision =
      (p.store.expire p.clock).revision := rfl
  rw [revision]
  generalize (p.store.expire p.clock).entries.filter _ = kvs at sorted ⊢
  unfold Snapshot.answer
  by_cases empty : kvs.isEmpty
  · rw [if_pos empty, if_pos empty, exec_bind, exec_throw]
  · rw [if_neg empty, if_neg empty, exec_bind, exec_ofExcept,
      Snapshot.assembleSnapshot_eq p.keyspace p.resolver service client sorted]
    cases kvs.findSome? (Snapshot.damage p.keyspace service) <;> rfl

theorem scanStart_of_checks (ks : KeySpace) {service : String} (hs : checkService service = .ok ()) :
    scanStart ks service none = .ok (ks.serviceScanStart service) ∧
      ∀ z, checkZone z = .ok () → scanStart ks service (some z) = .ok (ks.zoneScanStart service z) := by
  refine ⟨?_, fun z hz => ?_⟩
  · simp only [scanStart, hs]; rfl
  · simp only [scanStart, hs, hz]; rfl

/-- A query of a checked service, or of a checked zone of it, answers what `Snapshot.answer` says
of the entries its read finds: those of the store, as swept at the query's moment, whose key
starts with the scan start, in key order, at the swept store's revision. So it answers not found
exactly when no key starts with the scan start; otherwise the first damaged entry of the service
decides its failure; otherwise it answers the reference snapshot. -/
theorem query_eq_reference (p : Plane) (hc : p.store.Consistent) {service : String}
    {zone : Option String} (client : Option IpAddr) (hs : checkService service = .ok ())
    (hz : ∀ z, zone = some z → checkZone z = .ok ()) :
    let start := match zone with
      | some z => p.keyspace.zoneScanStart service z
      | none => p.keyspace.serviceScanStart service
    let read := p.store.expire p.clock
    ((query service zone client).exec p).1 =
      Snapshot.answer p.keyspace p.resolver service client
        (read.entries.filter fun kv => start.toList.isPrefixOf kv.key.toList) read.revision := by
  intro start read
  rw [query, Action.exec_recorded]
  obtain ⟨whole, inZone⟩ := scanStart_of_checks p.keyspace hs
  cases zone with
  | none => exact snapshot_eq_answer p hc client whole
  | some z => exact snapshot_eq_answer p hc client (inZone z (hz z rfl))

/-- A query of the zone `dc-1` of `orders:1.0` over a store that holds one endpoint key of it,
written through the store. -/
theorem zone_query_answers_reference :
    let p : Plane := { store := (Store.Call.put 0 "/services/orders:1.0/dc-1/node_10.0.0.5:9000"
      "10.0.0.5:9000" .detach).apply (Store.make 0 0) }
    p.store.Consistent ∧ checkService "orders:1.0" = .ok () ∧
      (∀ z, some "dc-1" = some z → checkZone z = .ok ()) ∧
      ((query "orders:1.0" (some "dc-1") none).exec p).1 =
        Snapshot.answer p.keyspace p.resolver "orders:1.0" none
          ((p.store.expire p.clock).entries.filter fun kv =>
            (p.keyspace.zoneScanStart "orders:1.0" "dc-1").toList.isPrefixOf kv.key.toList)
          (p.store.expire p.clock).revision := by
  intro p
  have hc : p.store.Consistent :=
    (Store.Reachable.call (.put 0 "/services/orders:1.0/dc-1/node_10.0.0.5:9000" "10.0.0.5:9000"
      .detach) (.make 0 0)).consistent
  exact ⟨hc, rfl, fun _ h => by cases h; rfl,
    query_eq_reference p hc none rfl fun _ h => by cases h; rfl⟩

end ControlPlane
