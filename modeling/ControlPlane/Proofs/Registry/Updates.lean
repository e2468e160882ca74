import ControlPlane.Proofs.Store.Transactions
import ControlPlane.Proofs.Plane.Triple
import ControlPlane.Registry.Register

/-!
# An update rewrites one endpoint in place

An update checks its service, zone and address, fills in the address of an endpoint that has
none and refuses one with another address, and then rewrites the endpoint's key in one
transaction whose only condition is that the key is present and whose only write puts the new
value with the key's lease kept.

On the store as the call's sweep leaves it, the transaction therefore does one of two things
(`Store.txn_endpointUpdate_absent`, `Store.txn_endpointUpdate_present`). A missing key fails
the condition and nothing is written. A present key is written at the next revision: its
value is the new one, its version counts one more, its creation revision and lease stay, and
no other key and no lease change. The lease table is untouched because a put that keeps the
lease of a present key moves the key nowhere: the lease already lists it
(`Store.putEntry_keep_leases`).

`update_rewrites_only_its_key` puts the three outcomes of the call together and adds that no
outcome creates a key.
-/

namespace ControlPlane

/-! ## Lease tables -/

/-- In a key list in ascending order, inserting a key it holds changes nothing. -/
theorem insertKey_of_mem {k : String} {keys : List String} (h : keys.Pairwise (· < ·))
    (hk : k ∈ keys) : insertKey k keys = keys := by
  refine (insertKey_sorted h).eq_of_mem_iff h fun x => ?_
  rw [mem_insertKey]
  constructor
  · rintro (rfl | mem)
    · exact hk
    · exact mem
  · exact .inr

namespace Store

/-- In a table whose numbers ascend, a lease is found under its own number. -/
theorem find?_id_of_mem {l : LeaseRecord} :
    ∀ {ls : List LeaseRecord}, ls.Pairwise (·.id < ·.id) → l ∈ ls → ls.find? (·.id == l.id) = some l
  | [], _, hl => absurd hl List.not_mem_nil
  | x :: ls, h, hl => by
    obtain ⟨above, rest⟩ := List.pairwise_cons.1 h
    rcases List.mem_cons.1 hl with rfl | hl
    · simp
    · have apart : x.id ≠ l.id := ne_of_lt (above l hl)
      simp [apart, find?_id_of_mem rest hl]

variable {s : Store} {rev : Revision} {key v : String}

/-- A put that keeps the lease of a present key leaves the lease table as it was: the key's
lease, if any, lists it already. -/
theorem putEntry_keep_leases (hc : s.Consistent) {kv : KeyValue} (hk : s.find? key = some kv) :
    (s.putEntry rev key v .keep).1.leases = s.leases := by
  have old : s.leaseOf key = kv.lease := by simp [leaseOf, hk]
  rw [putEntry_leases, old]
  refine (List.map_congr_left fun l hl => ?_).trans (List.map_id _)
  -- only the key's own lease could change, by inserting the key it lists
  have keys : relink key kv.lease (LeaseBinding.keep.target kv.lease) l.id l.keys = l.keys := by
    by_cases mine : l.id = kv.lease
    · simp only [relink, LeaseBinding.target, ne_eq, not_true_eq_false, false_and, if_false,
        mine, if_true]
      have held : kv.lease ≠ 0 := by
        have := (hc.lease_ids l hl).1
        grind
      obtain ⟨l', found, mem⟩ := hc.lease_of_entry key kv hk held
      rw [← mine, lease?, find?_id_of_mem hc.leases_sorted hl] at found
      cases found
      exact insertKey_of_mem (hc.keys_sorted l hl) mem
    · simp only [relink, LeaseBinding.target, ne_eq, not_true_eq_false, false_and, if_false, mine]
  simp only [keys, id]

/-! ## The rewrite of an endpoint key -/

theorem endpointUpdate_holds (t : Store) :
    (endpointUpdate key v).conditions.all t.holds = (t.find? key).isSome := by
  simp [endpointUpdate, holds]

variable {now : Nat}

theorem txn_endpointUpdate_absent (h : (s.expire now).find? key = none) :
    s.txn now (endpointUpdate key v) =
      (.ok (false, (s.expire now).revision), (s.expire now).publish) := by
  rw [txn_eq]
  dsimp only
  rw [endpointUpdate_holds, h]
  rfl

/-- A rewrite of a key the sweep left present writes its value at the next revision, counts one
more version, keeps its creation revision and lease, and changes no other key and no lease. -/
theorem txn_endpointUpdate_present (hc : s.Consistent) {kv : KeyValue}
    (h : (s.expire now).find? key = some kv) :
    let t := s.expire now
    let u := (s.txn now (endpointUpdate key v)).2
    (s.txn now (endpointUpdate key v)).1 = .ok (true, t.revision + 1) ∧
      u.revision = t.revision + 1 ∧ u.leases = t.leases ∧
      ∀ k, u.find? k = if k = key then
        some { kv with value := v, modRevision := t.revision + 1, version := kv.version + 1 }
        else t.find? k := by
  intro t u
  have ht : t.Consistent := hc.expire
  have written : t.applyWrites [.put key v .keep] =
      .ok ((t.putEntry (t.revision + 1) key v .keep).1.commit (t.revision + 1)
        [(t.putEntry (t.revision + 1) key v .keep).2]) := rfl
  have run : s.txn now (endpointUpdate key v) =
      (.ok (true, t.revision + 1),
        ((t.putEntry (t.revision + 1) key v .keep).1.commit (t.revision + 1)
          [(t.putEntry (t.revision + 1) key v .keep).2]).publish) := by
    rw [txn_eq]
    dsimp only
    rw [endpointUpdate_holds, h, Option.isSome_some, if_pos rfl]
    dsimp only [endpointUpdate]
    rw [written]
    dsimp only
    rw [commit_revision, if_neg (by simp)]
  have entry := (find?_key h).1
  refine ⟨by rw [run], ?_, ?_, fun k => ?_⟩
  · show (s.txn now (endpointUpdate key v)).2.revision = _
    rw [run]
    exact (commit_of_ne_nil _ (by simp)).1
  · show (s.txn now (endpointUpdate key v)).2.leases = _
    rw [run, Store.publish, commit_leases, putEntry_keep_leases ht h]
  · show (s.txn now (endpointUpdate key v)).2.find? k = _
    rw [run, find?_publish, commit_find?, putEntry_find? ht.entries_sorted, putEntry_snd]
    split
    · have found : t.find? key = some kv := h
      simp only [leaseOf, found, Option.map_some, Option.getD_some, LeaseBinding.target, entry]
    · rfl

/-- The rewrite creates no key: every key it leaves was in the store before the sweep. -/
theorem txn_endpointUpdate_creates_nothing (hc : s.Consistent) {k : String}
    (h : ((s.txn now (endpointUpdate key v)).2.find? k).isSome) : (s.find? k).isSome := by
  have kept : ∀ {k}, ((s.expire now).find? k).isSome → (s.find? k).isSome := by
    intro k found
    obtain ⟨e, he⟩ := Option.isSome_iff_exists.1 found
    rw [(Prunes.expire hc now).kept k e he]
    rfl
  cases found : (s.expire now).find? key with
  | none =>
    rw [txn_endpointUpdate_absent found, find?_publish] at h
    exact kept h
  | some kv =>
    rw [(txn_endpointUpdate_present hc found).2.2.2 k] at h
    split at h
    · rename_i same
      rw [same]
      exact kept (by rw [found]; rfl)
    · exact kept h

end Store

/-! ## The update -/

variable {service zone address : String} {endpoint : Endpoint}

theorem updatedEndpoint_of_other (named : endpoint.address ≠ "") (other : endpoint.address ≠ address) :
    updatedEndpoint endpoint address = .error ⟨.invalidParam, "can't modify address"⟩ := by
  have full : endpoint.address.isEmpty = false :=
    Bool.eq_false_iff.2 fun h => named (String.isEmpty_iff.1 h)
  simp [updatedEndpoint, full, other]

theorem updatedEndpoint_of_fits (fits : endpoint.address = "" ∨ endpoint.address = address) :
    updatedEndpoint endpoint address = .ok { endpoint with address } := by
  unfold updatedEndpoint
  by_cases empty : endpoint.address.isEmpty
  · rw [if_pos empty]
  · have same : endpoint.address = address :=
      fits.resolve_left fun h => empty (String.isEmpty_iff.2 h)
    rw [if_neg empty, if_neg (by simp [same]), ← same]

/-- What an update answers and leaves, its counters apart: an endpoint that is refused changes
nothing, and otherwise the rewrite of its key runs at the plane's clock. -/
def updateOutcome (p : Plane) (service zone address : String) (endpoint : Endpoint) :
    Except Error Revision × Plane :=
  match updatedEndpoint endpoint address with
  | .error e => (.error e, p)
  | .ok e =>
    let r := p.store.txn p.clock
      (endpointUpdate (p.keyspace.nodeKey service (zoneOrDefault zone) address) e.text)
    match r.1 with
    | .ok (true, rev) => (.ok rev, { p with store := r.2 })
    | .ok (false, _) =>
      (.error ⟨.notFound, "no such endpoint: " ++ address⟩, { p with store := r.2 })
    | .error err => (.error (Error.ofStore err "update service fail"), { p with store := r.2 })

open ControlPlane.Action in
theorem exec_update (hz : checkServiceZone service (zoneOrDefault zone) = .ok ()) (p : Plane)
    (ha : p.policy.check address = .ok ()) :
    (update service zone address endpoint).exec p =
      ((updateOutcome p service zone address endpoint).1,
        { (updateOutcome p service zone address endpoint).2 with
          metrics := (updateOutcome p service zone address endpoint).2.metrics.recordResult
            .update (updateOutcome p service zone address endpoint).1 }) := by
  apply exec_recorded_of
  rw [exec_check_bind_of_ok hz]
  dsimp only
  rw [exec_get_bind, exec_check_bind_of_ok ha]
  rw [exec_bind, exec_ofExcept]
  unfold updateOutcome
  cases updatedEndpoint endpoint address with
  | error e => rfl
  | ok e =>
    dsimp only
    rw [exec_bind, exec_onStore]
    -- the three ways the rewrite ends: a store failure, the key missing, the key rewritten
    generalize p.store.txn p.clock _ = r
    rcases r with ⟨_ | ⟨_ | _, rev⟩, s'⟩
    · rfl
    · rfl
    · rfl

section Outcomes

variable {p : Plane}

theorem updateOutcome_of_error {e : Error} (h : updatedEndpoint endpoint address = .error e) :
    updateOutcome p service zone address endpoint = (.error e, p) := by
  unfold updateOutcome
  rw [h]

/-- An update of a key the sweep left absent is refused as not found, writing nothing. -/
theorem updateOutcome_absent (fits : endpoint.address = "" ∨ endpoint.address = address)
    (h : (p.store.expire p.clock).find? (p.keyspace.nodeKey service (zoneOrDefault zone) address) =
      none) :
    updateOutcome p service zone address endpoint =
      (.error ⟨.notFound, "no such endpoint: " ++ address⟩,
        { p with store := (p.store.expire p.clock).publish }) := by
  unfold updateOutcome
  rw [updatedEndpoint_of_fits fits]
  dsimp only
  rw [Store.txn_endpointUpdate_absent h]

/-- An update of a key the sweep left present answers the revision after the swept store's. -/
theorem updateOutcome_present (hc : p.store.Consistent)
    (fits : endpoint.address = "" ∨ endpoint.address = address) {kv : KeyValue}
    (h : (p.store.expire p.clock).find? (p.keyspace.nodeKey service (zoneOrDefault zone) address) =
      some kv) :
    updateOutcome p service zone address endpoint =
      (.ok ((p.store.expire p.clock).revision + 1),
        { p with store := (p.store.txn p.clock (endpointUpdate
          (p.keyspace.nodeKey service (zoneOrDefault zone) address)
          { endpoint with address }.text)).2 }) := by
  unfold updateOutcome
  rw [updatedEndpoint_of_fits fits]
  dsimp only
  rw [(Store.txn_endpointUpdate_present hc h).1]

theorem updateOutcome_index : (updateOutcome p service zone address endpoint).2.index = p.index := by
  unfold updateOutcome
  split
  · rfl
  · dsimp only
    split <;> rfl

theorem updateOutcome_creates_nothing (hc : p.store.Consistent) {k : String}
    (h : ((updateOutcome p service zone address endpoint).2.store.find? k).isSome) :
    (p.store.find? k).isSome := by
  unfold updateOutcome at h
  split at h
  · exact h
  · dsimp only at h
    split at h <;> exact Store.txn_endpointUpdate_creates_nothing hc h

end Outcomes

/-- An update with a valid service, zone and address never creates a key and leaves the index
alone. An endpoint that names another address is refused as an invalid parameter before the
store is called. Otherwise, on the store as the call's sweep leaves it: a missing endpoint key
is refused as not found with nothing written; a present one is rewritten at the next revision,
which the update answers, with the endpoint under the address given as its value, its version
one more, its creation revision and lease as they were, and no other key and no lease changed. -/
theorem update_rewrites_only_its_key {p : Plane} (hc : p.store.Consistent)
    (hz : checkServiceZone service (zoneOrDefault zone) = .ok ())
    (ha : p.policy.check address = .ok ()) :
    let key := p.keyspace.nodeKey service (zoneOrDefault zone) address
    let t := p.store.expire p.clock
    let run := (update service zone address endpoint).exec p
    run.2.index = p.index ∧
      (∀ k, (run.2.store.find? k).isSome → (p.store.find? k).isSome) ∧
      (endpoint.address ≠ "" → endpoint.address ≠ address →
        run.1 = .error ⟨.invalidParam, "can't modify address"⟩ ∧ run.2.store = p.store) ∧
      (endpoint.address = "" ∨ endpoint.address = address →
        (t.find? key = none →
          run.1 = .error ⟨.notFound, "no such endpoint: " ++ address⟩ ∧
            run.2.store = t.publish) ∧
        ∀ kv, t.find? key = some kv →
          run.1 = .ok (t.revision + 1) ∧ run.2.store.revision = t.revision + 1 ∧
            run.2.store.leases = t.leases ∧
            run.2.store.find? key =
              some { kv with
                value := { endpoint with address }.text,
                modRevision := t.revision + 1, version := kv.version + 1 } ∧
            ∀ k, k ≠ key → run.2.store.find? k = t.find? k) := by
  dsimp only
  rw [exec_update hz p ha]
  dsimp only
  refine ⟨updateOutcome_index, fun k => updateOutcome_creates_nothing hc,
    fun named other => ?refused, fun fits => ⟨fun absent => ?missing, fun kv present => ?rewritten⟩⟩
  case refused =>
    rw [updateOutcome_of_error (updatedEndpoint_of_other named other)]
    exact ⟨rfl, rfl⟩
  case missing =>
    rw [updateOutcome_absent fits absent]
    exact ⟨rfl, rfl⟩
  case rewritten =>
    obtain ⟨-, revision, leases, find⟩ :=
      Store.txn_endpointUpdate_present (v := { endpoint with address }.text) hc present
    rw [updateOutcome_present hc fits present]
    exact ⟨rfl, revision, leases, by rw [find, if_pos rfl], fun k other => by rw [find, if_neg other]⟩

/-- An update of the one endpoint of `orders:1.0` in `dc-1`, held by a store written through the
store, with an endpoint that leaves its address to the call. -/
theorem update_of_stored_endpoint_answers_next_revision :
    let p : Plane := { store := (Store.Call.put 0 "/services/orders:1.0/dc-1/node_10.0.0.5:9000"
      "{}" .detach).apply (Store.make 0 0) }
    p.store.Consistent ∧ checkServiceZone "orders:1.0" (zoneOrDefault "dc-1") = .ok () ∧
      p.policy.check "10.0.0.5:9000" = .ok () ∧
      ((update "orders:1.0" "dc-1" "10.0.0.5:9000" { address := "" }).exec p).1 =
        .ok ((p.store.expire p.clock).revision + 1) := by
  intro p
  have hc : p.store.Consistent :=
    (Store.Reachable.call (.put 0 "/services/orders:1.0/dc-1/node_10.0.0.5:9000" "{}" .detach)
      (.make 0 0)).consistent
  have hz : checkServiceZone "orders:1.0" (zoneOrDefault "dc-1") = .ok () := rfl
  have ha : p.policy.check "10.0.0.5:9000" = .ok () := rfl
  have stored : ((p.store.expire p.clock).find?
      (p.keyspace.nodeKey "orders:1.0" (zoneOrDefault "dc-1") "10.0.0.5:9000")).isSome := by
    decide +kernel
  obtain ⟨kv, found⟩ := Option.isSome_iff_exists.1 stored
  exact ⟨hc, hz, ha,
    (((update_rewrites_only_its_key hc hz ha).2.2.2 (.inl rfl)).2 kv found).1⟩

end ControlPlane
