import ControlPlane.Proofs.Registry.Refusals
import ControlPlane.Proofs.Store.Transactions
import ControlPlane.Proofs.Index.Rows
import ControlPlane.Proofs.Store.PrefixRange

/-!
# Deleting a service

Deleting a service, or one zone of it, reads every key under the scan start of what it deletes
and refuses when one of them is no descriptor key: an endpoint is still plugged there. Otherwise
it deletes all those keys in one transaction, conditioned on the revision each key was read at,
and soft-deletes the rows of the service (or the zone) in the index.

On a consistent store nothing runs between the read and the transaction, so the conditions hold
and the first attempt commits. Towards the store the deletion is all or nothing: refused, it
changes nothing; carried out, it deletes every key under the start in one revision and no other
key, so no key of a service whose name extends the deleted one
(`deleteService_all_or_nothing_unless_index_fails`).

Across store and index it is not: the rows are soft-deleted after the transaction, and an index
that fails that step (a closed one, or one whose soft delete fails) fails it when the keys are
already gone. The call then answers the index's error with the descriptors deleted
(`closed_index_deletion_fails_after_deleting`).

1. `descriptorDeletes_of_not`: the write refused, with its one message.
2. `Store.txn_deletesUnder`: the transaction on a store at rest.
3. `Index.SoftDeleted`, `Index.softDelete_spec`: the index step.
4. `deleteService_attempt_refused`, `deleteService_attempt_deletes`: an attempt, refused or
   carried out; `deleteService_exec`: the checks before it.
5. The main theorem.
-/

namespace ControlPlane

open ControlPlane.Action

/-! ## The write -/

/-- A key that reads as the descriptor key of a service zone. -/
def KeySpace.DescriptorKey (ks : KeySpace) (k : String) : Prop :=
  ∃ sk, ks.decode k = some sk ∧ sk.isDescriptor = true

/-- Where a deletion scans: from the start of the service's keys, or of one zone's. -/
def KeySpace.deletionStart (ks : KeySpace) (service : String) : Option String → String
  | some zone => ks.zoneScanStart service zone
  | none => ks.serviceScanStart service

theorem KeySpace.service_of_deletionStart {ks : KeySpace} {service : String} {zone : Option String}
    (hs : '/' ∉ service.toList) (hz : ∀ z, zone = some z → '/' ∉ z.toList) {k : String}
    {sk : ServiceKey} (hk : ks.decode k = some sk)
    (under : (ks.deletionStart service zone).toList <+: k.toList) : sk.service = service := by
  obtain ⟨rfl, readable⟩ := ks.eq_encode_of_decode hk
  cases zone with
  | none => exact (ks.prefix_serviceScanStart readable hs).1 under
  | some z => exact ((ks.prefix_zoneScanStart readable hs (hz z rfl)).1 under).1

/-- Every refusal of one key of a deletion's write is the one for a plugged endpoint. -/
theorem descriptorDelete_eq_error {ks : KeySpace} {w : ConditionalWrite} {kv : KeyValue}
    {e : Error} (h : descriptorDelete ks w kv = .error e) :
    e = ⟨.invalidParam, "has endpoints plugged on"⟩ := by
  unfold descriptorDelete at h
  split at h
  · split at h
    · cases h
    · cases h
      rfl
  · cases h
    rfl

/-- The write of a deletion: each key read is deleted, on the condition that it still has the
revision it was read at. -/
def deletionWrite (kvs : List KeyValue) : ConditionalWrite :=
  ⟨kvs.map fun kv => .modRevisionEquals kv.key kv.modRevision, kvs.map fun kv => .delete kv.key, []⟩

theorem descriptorDeletes_of_all {ks : KeySpace} {kvs : List KeyValue}
    (h : ∀ kv ∈ kvs, ks.DescriptorKey kv.key) : descriptorDeletes ks kvs = .ok (deletionWrite kvs) :=
  descriptorDeletes_eq_ok.2 ⟨h, rfl⟩

@[simp] theorem deletionWrite_onSuccess_isEmpty (kvs : List KeyValue) :
    (deletionWrite kvs).onSuccess.isEmpty = kvs.isEmpty := by
  simp [deletionWrite]

/-- The write of a deletion is refused, with the message for a plugged endpoint, when a key read
is no descriptor key. -/
theorem descriptorDeletes_of_not {ks : KeySpace} {kvs : List KeyValue}
    (h : ∃ kv ∈ kvs, ¬ ks.DescriptorKey kv.key) :
    descriptorDeletes ks kvs = .error ⟨.invalidParam, "has endpoints plugged on"⟩ := by
  -- the fold stops at the first key refused
  have fold : ∀ (kvs : List KeyValue) w e, kvs.foldlM (descriptorDelete ks) w = .error e →
      e = ⟨.invalidParam, "has endpoints plugged on"⟩ := by
    intro kvs
    induction kvs with
    | nil => exact fun _ _ h => nomatch h
    | cons kv kvs ih =>
      intro w e h
      rw [List.foldlM_cons] at h
      cases hstep : descriptorDelete ks w kv with
      | error e' =>
        rw [hstep] at h
        cases h
        exact descriptorDelete_eq_error hstep
      | ok w' =>
        rw [hstep] at h
        exact ih w' e h
  cases hw : descriptorDeletes ks kvs with
  | ok w =>
    obtain ⟨kv, hkv, no⟩ := h
    exact absurd ((descriptorDeletes_eq_ok.1 hw).1 kv hkv) no
  | error e => rw [fold kvs {} e hw]

/-! ## The transaction -/

namespace Store

variable {t : Store} {now : Nat}

/-- Deletes, one key after another, leave a key held exactly when none of them deletes it. -/
theorem foldl_heldAfter_deletes (k : String) :
    ∀ (kvs : List KeyValue) (held : Option (String × LeaseId)),
      (kvs.map fun kv => WriteOp.delete kv.key).foldl (WriteOp.heldAfter k) held =
        if k ∈ kvs.map (·.key) then none else held
  | [], held => rfl
  | kv :: kvs, held => by
    rw [List.map_cons, List.foldl_cons, foldl_heldAfter_deletes k kvs]
    by_cases hk : k = kv.key
    · simp [WriteOp.heldAfter, hk]
    · simp [WriteOp.heldAfter, hk]

variable {start : String} {kvs : List KeyValue}

/-- Deleting the keys of the entries under a start leaves a key held exactly when it is not
under the start. -/
theorem foldl_deletesUnder_held (hkvs : kvs = t.entries.filter fun kv =>
    start.toList.isPrefixOf kv.key.toList) (k : String) :
    (kvs.map fun kv => WriteOp.delete kv.key).foldl (WriteOp.heldAfter k) (t.held k) =
      if start.toList <+: k.toList then none else t.held k := by
  have under : ∀ kv, kv ∈ kvs ↔ kv ∈ t.entries ∧ start.toList <+: kv.key.toList := fun kv => by
    rw [hkvs, List.mem_filter, List.isPrefixOf_iff_prefix]
  rw [foldl_heldAfter_deletes]
  by_cases hk : start.toList <+: k.toList
  · -- a key under the start that the read did not find is not held
    rw [if_pos hk]
    by_cases read : k ∈ kvs.map (·.key)
    · rw [if_pos read]
    · rw [if_neg read]
      cases hheld : t.held k with
      | none => rfl
      | some v =>
        obtain ⟨e, he⟩ := Option.map_eq_some_iff.1 hheld
        obtain ⟨rfl, mem⟩ := find?_key he.1
        exact absurd (List.mem_map.2 ⟨e, (under e).2 ⟨mem, hk⟩, rfl⟩) read
  · -- every key read is under the start
    have unread : k ∉ kvs.map (·.key) := fun hmem => by
      obtain ⟨kv, hkv, rfl⟩ := List.mem_map.1 hmem
      exact hk ((under kv).1 hkv).2
    rw [if_neg hk, if_neg unread]

/-- The conditional delete of the entries under a start, on the consistent store at rest they
were read from: its conditions hold, and it deletes every key under the start and no other, in
one revision when there is one. -/
theorem txn_deletesUnder (hc : t.Consistent) (rest : AtRest now t)
    (hkvs : kvs = t.entries.filter fun kv => start.toList.isPrefixOf kv.key.toList) :
    ∃ t', t.txn now (deletionWrite kvs) = (.ok (true, t'.revision), t') ∧
      (∀ k, t'.held k = if start.toList <+: k.toList then none else t.held k) ∧
      (kvs ≠ [] → t'.revision = t.revision + 1) := by
  have found : ∀ kv ∈ kvs, t.find? kv.key = some kv := fun kv hkv => by
    rw [hkvs, List.mem_filter] at hkv
    exact find?_of_mem hc.entries_sorted hkv.1
  -- each condition finds the entry at the revision it was read at
  have holds : (kvs.map fun kv => Condition.modRevisionEquals kv.key kv.modRevision).all
      t.holds = true := by
    rw [List.all_eq_true]
    intro c hcond
    obtain ⟨kv, hkv, rfl⟩ := List.mem_map.1 hcond
    simp [Store.holds, found kv hkv]
  -- deletes attach no lease, so they apply
  obtain ⟨applied, written⟩ := @applyWrites_of_present t hc (kvs.map fun kv => .delete kv.key)
    (by simp)
  have run := txn_eq (s := t) now (deletionWrite kvs)
  rw [expire_atRest rest] at run
  simp only [deletionWrite, holds, if_true, applied] at run
  change t.txn now (deletionWrite kvs) = _ at run
  refine ⟨(t.txn now (deletionWrite kvs)).2, by rw [run]; rfl, fun k => ?_, fun nonempty => ?_⟩
  all_goals rw [run]
  · rw [held_publish, applyWrites_held hc.entries_sorted applied, foldl_deletesUnder_held hkvs]
  · -- a delete of a key held changes it, so the writes commit
    obtain ⟨kv, hkv⟩ := List.exists_mem_of_ne_nil kvs nonempty
    have busy : ¬ WriteOp.Idle t (.delete kv.key) := by
      simp [WriteOp.Idle, found kv hkv]
    have events : ((kvs.map fun kv => WriteOp.delete kv.key).foldl (writeStep (t.revision + 1))
        (t, [])).2 ≠ [] := fun hnil =>
      busy (((foldl_writeStep_events_nil_iff _ t []).1 hnil).2 _ (List.mem_map.2 ⟨kv, hkv, rfl⟩))
    exact (written.commit_history events).1

end Store

/-! ## The index -/

namespace Index

/-- `ix'` is `ix` with the rows of a service, or of one of its zones, soft-deleted: every row is
changed in place, every row of the service (zone) is deleted, and every other row is kept. -/
structure SoftDeleted (service : String) (zone : Option String) (ix ix' : Index) : Prop where
  advances : ix.Advances ix'
  deleted : ∀ r ∈ ix'.services, ServiceRow.isOf service zone r = true → r.status = .deleted
  kept : ∀ r ∈ ix.services, ServiceRow.isOf service zone r = false → r ∈ ix'.services

variable {ix : Index} {service : String} {zone : Option String}

/-- A soft delete the index answers soft-deletes the rows. -/
theorem softDelete_spec (hopen : ix.Answers .softDelete) :
    ∃ n ix', ix.softDelete service zone = .ok (n, ix') ∧ SoftDeleted service zone ix ix' := by
  have answer : ix.softDelete service zone = .ok
      ((ix.services.filter fun r => ServiceRow.isOf service zone r && r.status == .active).length,
        { ix with clock := ix.clock + 1, services := ix.services.map fun r =>
          if ServiceRow.isOf service zone r && r.status == .active then
            { r with status := .deleted, modifyTime := ix.clock + 1 } else r }) := by
    simp [softDelete, ensureAnswers_pos hopen, tick, bind, Except.bind, pure, Except.pure]
  refine ⟨_, _, answer, softDelete_advances answer, fun r hr hof => ?_, fun r hr hof => ?_⟩
  · obtain ⟨r₀, -, rfl⟩ := List.mem_map.1 hr
    -- a row of the service is deleted now, or was deleted before
    by_cases hit : (ServiceRow.isOf service zone r₀ && r₀.status == .active) = true
    · rw [if_pos hit]
    · rw [if_neg hit] at hof ⊢
      cases hstatus : r₀.status with
      | deleted => rfl
      | active => simp [hof, hstatus] at hit
  · refine List.mem_map.2 ⟨r, hr, ?_⟩
    rw [if_neg (by simp [hof])]

theorem softDelete_refused (hfail : ¬ ix.Answers .softDelete) :
    ix.softDelete service zone = .error (Error.ofIndex "delete service db items fail") := by
  simp [softDelete, ensureAnswers_neg hfail, bind, Except.bind]

end Index

/-! ## An attempt -/

variable {p : Plane} {service : String} {zone : Option String}

/-- The step that ends a deletion: where the index answers it, it soft-deletes the rows; where
not, it fails with the index's error and changes nothing. -/
theorem softDelete_then_exec (q : Plane) :
    ∃ r ix, (onIndex (·.softDelete service zone) >>= fun _ => pure ()).exec q =
        (r, { q with index := ix }) ∧
      (q.index.Answers .softDelete → r = .ok () ∧ q.index.SoftDeleted service zone ix) ∧
      (¬ q.index.Answers .softDelete →
        r = .error (Error.ofIndex "delete service db items fail") ∧ ix = q.index) := by
  by_cases answers : q.index.Answers .softDelete
  · obtain ⟨n, ix, hsd, soft⟩ := @Index.softDelete_spec q.index service zone answers
    refine ⟨.ok (), ix, ?_, fun _ => ⟨rfl, soft⟩, fun refused => absurd answers refused⟩
    rw [exec_bind, exec_onIndex, hsd]
    rfl
  · refine ⟨_, q.index, ?_, fun h => absurd h answers, fun _ => ⟨rfl, rfl⟩⟩
    rw [exec_bind, exec_onIndex, Index.softDelete_refused answers]

/-- An attempt that finds a key under its start that is no descriptor key refuses, leaving the
plane as its read left it. -/
theorem deleteService_attempt_refused {start : String} (n : Nat)
    (h : ∃ k, start.toList <+: k.toList ∧ (p.swept.store.held k).isSome ∧
      ¬ p.keyspace.DescriptorKey k) :
    (deleteService.attempt service zone p.keyspace start (n + 1)).exec p =
      (.error ⟨.invalidParam, "has endpoints plugged on"⟩, p.swept) := by
  obtain ⟨k, under, held, no⟩ := h
  -- the key is one the read finds
  obtain ⟨kv, hkv, rfl⟩ := Store.mem_range_startingWith (s := p.store.expire p.clock) under held
  unfold deleteService.attempt
  rw [exec_bind, exec_onStore, Store.read_eq]
  dsimp only
  rw [exec_bind, exec_ofExcept, descriptorDeletes_of_not ⟨kv, hkv, no⟩]
  rfl

theorem not_held_of_range_empty {start : String}
    (empty : ((p.store.expire p.clock).range (RangeRequest.startingWith start)).kvs = []) :
    ¬ ∃ k, start.toList <+: k.toList ∧ (p.swept.store.held k).isSome := by
  rintro ⟨k, under, held⟩
  obtain ⟨kv, hkv, -⟩ := Store.mem_range_startingWith (s := p.store.expire p.clock) under held
  rw [empty] at hkv
  cases hkv

/-- An attempt on a consistent plane whose keys under the start are all descriptor keys deletes
them all, in one revision when there is one, and no other key; then it ends with the soft
delete. -/
theorem deleteService_attempt_deletes (hc : p.store.Consistent) {start : String} (n : Nat)
    (all : ∀ k, start.toList <+: k.toList → (p.swept.store.held k).isSome →
      p.keyspace.DescriptorKey k) :
    ∃ t, (deleteService.attempt service zone p.keyspace start (n + 1)).exec p =
        (onIndex (·.softDelete service zone) >>= fun _ => pure ()).exec { p.swept with store := t } ∧
      (∀ k, t.held k = if start.toList <+: k.toList then none else p.swept.store.held k) ∧
      ((∃ k, start.toList <+: k.toList ∧ (p.swept.store.held k).isSome) →
        t.revision = p.swept.store.revision + 1) ∧
      ((¬ ∃ k, start.toList <+: k.toList ∧ (p.swept.store.held k).isSome) → t = p.swept.store) := by
  have hc' : p.swept.store.Consistent := hc.expire.publish
  have rest : Store.AtRest p.clock p.swept.store := Store.AtRest.get hc ""
  -- the keys read are the entries under the start, each held
  have hkvs : ((p.store.expire p.clock).range (RangeRequest.startingWith start)).kvs =
      p.swept.store.entries.filter fun kv => start.toList.isPrefixOf kv.key.toList :=
    Store.range_startingWith _ _
  have read : ∀ kv ∈ ((p.store.expire p.clock).range (RangeRequest.startingWith start)).kvs,
      start.toList <+: kv.key.toList ∧ (p.swept.store.held kv.key).isSome := fun kv hkv => by
    rw [hkvs, List.mem_filter, List.isPrefixOf_iff_prefix] at hkv
    refine ⟨hkv.2, ?_⟩
    simp [Store.held, Store.find?, find?_of_mem hc'.entries_sorted hkv.1]
  unfold deleteService.attempt
  rw [exec_bind, exec_onStore, Store.read_eq]
  dsimp only
  rw [exec_bind, exec_ofExcept,
    descriptorDeletes_of_all fun kv hkv => all _ (read kv hkv).1 (read kv hkv).2]
  dsimp only
  rw [deletionWrite_onSuccess_isEmpty]
  by_cases empty : ((p.store.expire p.clock).range (RangeRequest.startingWith start)).kvs = []
  · -- nothing under the start: no transaction
    have nothing := not_held_of_range_empty empty
    refine ⟨p.swept.store, ?_, fun k => ?_, fun found => absurd found nothing, fun _ => rfl⟩
    · rw [empty, List.isEmpty_nil, if_pos rfl]
      rfl
    · by_cases under : start.toList <+: k.toList
      · rw [if_pos under, ← Option.not_isSome_iff_eq_none]
        exact fun held => nothing ⟨k, under, held⟩
      · rw [if_neg under]
  · obtain ⟨t, htxn, held, revision⟩ := Store.txn_deletesUnder hc' rest hkvs
    have htxn' : ((p.store.expire p.clock).publish).txn p.clock (deletionWrite
        ((p.store.expire p.clock).range (RangeRequest.startingWith start)).kvs) =
        (.ok (true, t.revision), t) := htxn
    refine ⟨t, ?_, held, fun _ => revision empty, fun none => absurd ?_ none⟩
    · rw [if_neg (by simpa using empty), exec_bind, exec_onStore, htxn']
      rfl
    · obtain ⟨kv, hkv⟩ := List.exists_mem_of_ne_nil _ empty
      exact ⟨kv.key, read kv hkv⟩

/-- After its checks, a deletion is its attempts from the deletion's start, counted. -/
theorem deleteService_exec (hs : checkService service = .ok ())
    (hz : ∀ z, zone = some z → checkZone z = .ok ()) (p : Plane) :
    (deleteService service zone).exec p =
      (recorded .deleteService (deleteService.attempt service zone p.keyspace
        (p.keyspace.deletionStart service zone) maxAttempts)).exec p := by
  unfold deleteService
  rw [exec_recorded, exec_recorded, exec_bind_of_ok (exec_check_of_ok hs p)]
  cases zone with
  | none =>
    have start : p.keyspace.deletionStart service none = p.keyspace.serviceScanStart service := rfl
    dsimp only
    rw [exec_get_bind, start]
  | some z =>
    have start : p.keyspace.deletionStart service (some z) = p.keyspace.zoneScanStart service z :=
      rfl
    dsimp only
    rw [exec_bind_of_ok (exec_check_of_ok (hz z rfl) p), exec_get_bind, start]

/-! ## The deletion -/

/-- Deleting a valid service, or a valid zone of it, from a consistent plane. When a key under
the deletion's start is no descriptor key, an endpoint is still plugged: the call refuses and
changes neither the store nor the index. Otherwise it deletes every key under the start, in one
revision when there is one, and no other key, so no key of another service, whose name may
extend the deleted one; with nothing under the start the store stays as the read left it. Where
the index answers the soft delete, it then soft-deletes the rows and answers. Where it does not,
the call fails with the index's error, with the keys deleted all the same and the index
unchanged. -/
theorem deleteService_all_or_nothing_unless_index_fails (hc : p.store.Consistent)
    (hs : checkService service = .ok ()) (hz : ∀ z, zone = some z → checkZone z = .ok ()) :
    ∃ r q, (deleteService service zone).exec p = (r, q) ∧
      (∀ k sk, p.keyspace.decode k = some sk → sk.service ≠ service →
        q.store.held k = p.swept.store.held k) ∧
      ((∃ k, (p.keyspace.deletionStart service zone).toList <+: k.toList ∧
          (p.swept.store.held k).isSome ∧ ¬ p.keyspace.DescriptorKey k) →
        r = .error ⟨.invalidParam, "has endpoints plugged on"⟩ ∧ q.store = p.swept.store ∧
          q.index = p.index) ∧
      ((∀ k, (p.keyspace.deletionStart service zone).toList <+: k.toList →
          (p.swept.store.held k).isSome → p.keyspace.DescriptorKey k) →
        (∀ k, q.store.held k = if (p.keyspace.deletionStart service zone).toList <+: k.toList
          then none else p.swept.store.held k) ∧
        ((∃ k, (p.keyspace.deletionStart service zone).toList <+: k.toList ∧
          (p.swept.store.held k).isSome) → q.store.revision = p.swept.store.revision + 1) ∧
        ((¬ ∃ k, (p.keyspace.deletionStart service zone).toList <+: k.toList ∧
          (p.swept.store.held k).isSome) → q.store = p.swept.store) ∧
        (p.index.Answers .softDelete → r = .ok () ∧ p.index.SoftDeleted service zone q.index) ∧
        (¬ p.index.Answers .softDelete →
          r = .error (Error.ofIndex "delete service db items fail") ∧ q.index = p.index)) := by
  have attempts : maxAttempts = 4 + 1 := rfl
  -- a key of another service lies outside the start
  have outside : ∀ k sk, p.keyspace.decode k = some sk → sk.service ≠ service →
      ¬ (p.keyspace.deletionStart service zone).toList <+: k.toList := fun k sk hk other under =>
    other (KeySpace.service_of_deletionStart (segment_of_checkService hs).noSlash
      (fun z hz' => (segment_of_checkZone (hz z hz')).noSlash) hk under)
  rw [deleteService_exec hs hz p, exec_recorded, attempts]
  by_cases all : ∀ k, (p.keyspace.deletionStart service zone).toList <+: k.toList →
      (p.swept.store.held k).isSome → p.keyspace.DescriptorKey k
  · obtain ⟨t, hattempt, held, revision, same⟩ := deleteService_attempt_deletes hc 4 all
    obtain ⟨r, ix, hindex, opened, closed⟩ :=
      @softDelete_then_exec service zone { p.swept with store := t }
    rw [hattempt, hindex]
    refine ⟨_, _, rfl, fun k sk hk other => ?_, fun refusing => ?_,
      fun _ => ⟨held, revision, same, opened, closed⟩⟩
    · show t.held k = _
      rw [held k, if_neg (outside k sk hk other)]
    · obtain ⟨k, under, found, no⟩ := refusing
      exact absurd (all k under found) no
  · -- a key under the start is no descriptor key
    have refusing : ∃ k, (p.keyspace.deletionStart service zone).toList <+: k.toList ∧
        (p.swept.store.held k).isSome ∧ ¬ p.keyspace.DescriptorKey k := by
      simpa [not_forall] using all
    rw [deleteService_attempt_refused 4 refusing]
    exact ⟨_, _, rfl, fun _ _ _ _ => rfl, fun _ => ⟨rfl, rfl, rfl⟩, fun all' => absurd all' all⟩

/-- One descriptor stored under no lease, beside an open index: deleting its service answers,
and the descriptor key is gone. -/
theorem lone_descriptor_service_deleted :
    ((deleteService "orders:1.0" none).exec
      ({ store := ((Store.make 0 0).put 0 "/services/orders:1.0/dc-1/desc" "v" .keep).2 } :
        Plane)).1 = .ok () ∧
    ((deleteService "orders:1.0" none).exec
      ({ store := ((Store.make 0 0).put 0 "/services/orders:1.0/dc-1/desc" "v" .keep).2 } :
        Plane)).2.store.held "/services/orders:1.0/dc-1/desc" = none := by
  obtain ⟨r, q, hrun, -, -, deleted⟩ := @deleteService_all_or_nothing_unless_index_fails
    { store := ((Store.make 0 0).put 0 "/services/orders:1.0/dc-1/desc" "v" .keep).2 }
    "orders:1.0" none ((Store.consistent_make 0 0).apply (.put 0 _ _ .keep)) rfl
    (fun _ h => nomatch h)
  -- the store holds one key, a descriptor key
  obtain ⟨held, -, -, opened, -⟩ := deleted fun k _ found => by
    obtain ⟨v, hv⟩ := Option.isSome_iff_exists.1 found
    rw [Store.held] at hv
    obtain ⟨e, he, -⟩ := Option.map_eq_some_iff.1 hv
    obtain ⟨rfl, mem⟩ := find?_key he
    have one : e.key ∈ ["/services/orders:1.0/dc-1/desc"] := by
      have keys : ({ store := ((Store.make 0 0).put 0 "/services/orders:1.0/dc-1/desc" "v"
          .keep).2 } : Plane).swept.store.entries.map (·.key) = ["/services/orders:1.0/dc-1/desc"] := by
        decide +kernel
      rw [← keys]
      exact List.mem_map_of_mem mem
    rw [List.mem_singleton.1 one]
    exact ⟨⟨"orders:1.0", "dc-1", .descriptor⟩, by decide +kernel, rfl⟩
  rw [hrun]
  exact ⟨(opened ⟨rfl, List.not_mem_nil⟩).1, by rw [held, if_pos (by decide +kernel)]⟩

deriving instance DecidableEq for Error

/-- The same store beside a closed index: deleting the service deletes the descriptor and then
fails with the index's error. -/
theorem closed_index_deletion_fails_after_deleting :
    (((Store.make 0 0).put 0 "/services/orders:1.0/dc-1/desc" "v" .keep).2.held
      "/services/orders:1.0/dc-1/desc").isSome ∧
    ((deleteService "orders:1.0" none).exec
      ({ store := ((Store.make 0 0).put 0 "/services/orders:1.0/dc-1/desc" "v" .keep).2,
         index := { closed := true } } : Plane)).1 =
        .error (Error.ofIndex "delete service db items fail") ∧
    ((deleteService "orders:1.0" none).exec
      ({ store := ((Store.make 0 0).put 0 "/services/orders:1.0/dc-1/desc" "v" .keep).2,
         index := { closed := true } } : Plane)).2.store.held
        "/services/orders:1.0/dc-1/desc" = none := by
  decide +kernel

end ControlPlane
