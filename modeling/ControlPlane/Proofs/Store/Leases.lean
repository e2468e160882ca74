import ControlPlane.Proofs.Store.Writes

/-!
# Dropping a lease

A lease goes in one of two ways: a revoke drops it at once, and the sweep at the start of every
call drops each lease whose time is up, in number order. Either way the lease leaves the table
and the keys it lists are deleted in one revision. With exact bookkeeping (`Store.Linked`) the
keys a lease lists are exactly the keys whose entry it holds, so a dropped lease deletes exactly
these entries, each as one delete event in key order, and touches no other entry.

1. `Store.withoutLease`: the tables without a lease and without the entries it holds;
   `Store.dropHeld`: that, then one commit of the delete events of these entries.
2. `dropLease_eq`: on exact bookkeeping, dropping a lease is `dropHeld`, whether the lease is
   in the table or not.
3. `Linked.withoutLease`, `Linked.dropLease`: the bookkeeping stays exact.
-/

namespace ControlPlane
namespace Store

variable {s : Store} {id : LeaseId}

/-- The tables without lease `id` and without the entries it holds. -/
def withoutLease (s : Store) (id : LeaseId) : Store :=
  { s with leases := s.leases.filter (·.id != id), entries := s.entries.filter (·.lease != id) }

/-- The delete events, in key order and at revision `rev`, of the entries lease `id` holds. -/
def leaseTombstones (s : Store) (id : LeaseId) (rev : Revision) : List WatchEvent :=
  (s.entries.filter (·.lease == id)).map fun e => ⟨.delete, tombstone e.key rev⟩

/-- Takes lease `id` out of the table with the entries it holds, and commits their delete events
at the next revision. -/
def dropHeld (s : Store) (id : LeaseId) : Store :=
  (s.withoutLease id).commit (s.revision + 1) (s.leaseTombstones id (s.revision + 1))

/-- One delete of a lease drop, after the deletes and events before it. -/
def dropStep (rev : Revision) (acc : Store × List WatchEvent) (k : String) :
    Store × List WatchEvent :=
  let (s, e) := acc.1.deleteEntry rev k
  (s, acc.2 ++ e.toList)

theorem dropLease_eq_fold : s.dropLease id = match s.lease? id with
    | none => s
    | some l =>
      let r := l.keys.foldl (dropStep (s.revision + 1))
        ({ s with leases := s.leases.filter (·.id != id) }, [])
      r.1.commit (s.revision + 1) r.2 := rfl

theorem dropLease_of_none (h : s.lease? id = none) : s.dropLease id = s := by
  rw [dropLease_eq_fold, h]

theorem find?_filter_sorted {es : List KeyValue} {p : KeyValue → Bool} {k : String} {e : KeyValue}
    (h : EntriesSorted es) :
    (es.filter p).find? (·.key == k) = some e ↔ e ∈ es ∧ p e ∧ e.key = k := by
  rw [find?_eq_some_iff (filter_sorted h), List.mem_filter, and_assoc]

/-- Without a lease, a key finds its entry unless the lease held it. -/
theorem find?_withoutLease (h : EntriesSorted s.entries) {k : String} :
    (s.withoutLease id).find? k = (s.find? k).filter (·.lease != id) := by
  cases hold : s.find? k with
  | none =>
    apply find?_eq_none_iff.2
    intro e he
    exact find?_eq_none_iff.1 hold e (List.mem_filter.1 he).1
  | some e =>
    obtain ⟨mem, rfl⟩ := (find?_eq_some_iff h).1 hold
    by_cases keep : (e.lease != id) = true
    · rw [Option.filter_some, if_pos keep]
      exact (find?_filter_sorted h).2 ⟨mem, keep, rfl⟩
    · rw [Option.filter_some, if_neg keep]
      -- the key's only entry is the one the filter dropped
      apply find?_eq_none_iff.2
      intro e' he' same
      have found : s.find? e'.key = some e' := find?_of_mem h (List.mem_filter.1 he').1
      rw [same, hold] at found
      cases found
      exact keep (List.mem_filter.1 he').2

/-- Deleting, one by one, distinct keys whose entries a lease holds that is no longer in the
table: the entries go, and nothing else changes. -/
theorem foldl_dropStep (rev : Revision) :
    ∀ (ks : List String) (t : Store) (evs : List WatchEvent), ks.Nodup → EntriesSorted t.entries →
      t.lease? id = none → (∀ k ∈ ks, ∃ e, t.find? k = some e ∧ e.lease = id) →
      ks.foldl (dropStep rev) (t, evs) =
        ({ t with entries := t.entries.filter fun e => !ks.contains e.key },
          evs ++ ks.map fun k => ⟨.delete, tombstone k rev⟩)
  | [], t, evs, _, _, _, _ => by simp
  | k :: ks, t, evs, hnodup, hsorted, hgone, hheld => by
    have hk : k ∉ ks := (List.nodup_cons.1 hnodup).1
    have hnodup' : ks.Nodup := (List.nodup_cons.1 hnodup).2
    obtain ⟨e, he, hlease⟩ := hheld k List.mem_cons_self
    -- no lease of the table has the number of the entry's lease, so no key list changes
    have hleases : (t.leases.map fun l =>
        { l with keys := if l.id = e.lease then l.keys.erase k else l.keys }) = t.leases := by
      rw [List.map_congr_left (g := fun l => l), List.map_id']
      intro l hl
      have : l.id ≠ e.lease := by
        intro same
        have := List.find?_eq_none.1 hgone l hl
        simp [same, hlease] at this
      simp [this]
    rw [List.foldl_cons]
    simp only [dropStep]
    rw [deleteEntry_some he, hleases]
    set t' : Store := { t with entries := t.entries.filter (·.key != k) } with ht'
    have heldRest : ∀ k' ∈ ks, ∃ e, t'.find? k' = some e ∧ e.lease = id := by
      intro k' hk'
      have hne : k' ≠ k := fun same => hk (same ▸ hk')
      obtain ⟨e', he', hl'⟩ := hheld k' (List.mem_cons_of_mem _ hk')
      exact ⟨e', by rw [ht', find?, find?_filter_key, if_neg hne]; exact he', hl'⟩
    have := foldl_dropStep rev ks t' (evs ++ (some (⟨.delete, tombstone k rev⟩ : WatchEvent)).toList)
      hnodup' (filter_sorted hsorted) hgone heldRest
    simp only [Option.toList_some] at this
    dsimp only
    simp only [Option.toList_some]
    rw [this]
    simp only [ht', List.filter_filter, List.append_assoc, List.map_cons, List.singleton_append,
      Prod.mk.injEq, and_true]
    congr 2
    funext x
    simp only [List.contains_cons, Bool.not_or]
    rw [Bool.and_comm]
    rfl

/-- The keys a lease lists are the keys of the entries it holds. -/
theorem mem_keys_iff (h : s.Linked) (hid : id ≠ 0) {l : LeaseRecord} (hl : s.lease? id = some l)
    {k : String} : k ∈ l.keys ↔ ∃ e, s.find? k = some e ∧ e.lease = id := by
  constructor
  · exact h.entry_of_key id l k hl
  · rintro ⟨e, he, rfl⟩
    obtain ⟨l', hl', mem⟩ := h.lease_of_entry k e he hid
    rw [hl] at hl'
    cases hl'
    exact mem

/-- The keys a lease lists, in their order, are the keys of the entries it holds. -/
theorem keys_eq (h : s.Linked) (hid : id ≠ 0) {l : LeaseRecord} (hl : s.lease? id = some l) :
    l.keys = (s.entries.filter (·.lease == id)).map (·.key) := by
  have sortedKeys : l.keys.Pairwise (· < ·) := h.keys_sorted l (lease?_eq_some hl).2
  have sortedHeld : ((s.entries.filter (·.lease == id)).map (·.key)).Pairwise (· < ·) :=
    List.pairwise_map.2 (filter_sorted h.entries_sorted)
  apply sortedKeys.eq_of_mem_iff sortedHeld
  intro k
  rw [mem_keys_iff h hid hl]
  simp only [List.mem_map, List.mem_filter, beq_iff_eq]
  constructor
  · rintro ⟨e, he, rfl⟩
    exact ⟨e, ⟨(find?_key he).2, rfl⟩, (find?_key he).1⟩
  · rintro ⟨e, ⟨mem, rfl⟩, rfl⟩
    exact ⟨e, find?_of_mem h.entries_sorted mem, rfl⟩

/-- Dropping a lease of the table takes it out of the table with the entries it holds, and
commits one delete event for each of these entries, in key order, at the next revision. No
other entry changes. -/
theorem dropLease_of_some (h : s.Linked) (hid : id ≠ 0) {l : LeaseRecord} (hl : s.lease? id = some l) :
    s.dropLease id = s.dropHeld id := by
  have keys := keys_eq h hid hl
  rw [dropLease_eq_fold, hl]
  dsimp only
  rw [foldl_dropStep (s.revision + 1) l.keys { s with leases := s.leases.filter (·.id != id) } []
    (List.Pairwise.nodup (h.keys_sorted l (lease?_eq_some hl).2))
    h.entries_sorted (by simp [lease?]) (fun k hk => h.entry_of_key id l k hl hk)]
  -- an entry's key is listed by the lease exactly when the lease holds it
  have listed : ∀ e ∈ s.entries, l.keys.contains e.key = (e.lease == id) := by
    intro e he
    have found : s.find? e.key = some e := find?_of_mem h.entries_sorted he
    rw [Bool.eq_iff_iff, List.contains_iff_mem, mem_keys_iff h hid hl, found, beq_iff_eq]
    constructor
    · rintro ⟨e', he', rfl⟩
      cases he'
      rfl
    · intro held
      exact ⟨e, rfl, held⟩
  have entries' : s.entries.filter (fun e => !l.keys.contains e.key) =
      s.entries.filter (·.lease != id) :=
    List.filter_congr fun e he => by rw [listed e he]; rfl
  have events' : l.keys.map (fun k => (⟨.delete, tombstone k (s.revision + 1)⟩ : WatchEvent)) =
      s.leaseTombstones id (s.revision + 1) := by
    rw [keys, List.map_map]
    rfl
  simp only [List.nil_append, entries', events']
  rfl

/-- A lease number not in the table holds no entry, so `dropHeld` changes nothing. -/
theorem dropHeld_of_none (h : s.Linked) (hid : id ≠ 0) (hl : s.lease? id = none) :
    s.dropHeld id = s := by
  have unheld : ∀ e ∈ s.entries, e.lease ≠ id := by
    intro e he same
    obtain ⟨l, hl', -⟩ := h.lease_of_entry e.key e (find?_of_mem h.entries_sorted he) (same ▸ hid)
    rw [same, hl] at hl'
    cases hl'
  have absent : ∀ l ∈ s.leases, l.id ≠ id := by
    intro l hl' same
    have := List.find?_eq_none.1 hl l hl'
    simp [same] at this
  have entries' : s.entries.filter (·.lease != id) = s.entries :=
    List.filter_eq_self.2 fun e he => by simpa using unheld e he
  have leases' : s.leases.filter (·.id != id) = s.leases :=
    List.filter_eq_self.2 fun l hl' => by simpa using absent l hl'
  have held : s.entries.filter (·.lease == id) = [] :=
    List.filter_eq_nil_iff.2 fun e he => by simpa using unheld e he
  simp only [dropHeld, withoutLease, leaseTombstones, entries', leases', held, List.map_nil,
    commit_nil]

theorem dropLease_eq (h : s.Linked) (hid : id ≠ 0) : s.dropLease id = s.dropHeld id := by
  cases hl : s.lease? id with
  | none => rw [dropLease_of_none hl, dropHeld_of_none h hid hl]
  | some l => exact dropLease_of_some h hid hl

/-- Without a lease and the entries it holds, the bookkeeping stays exact. -/
theorem Linked.withoutLease (h : s.Linked) : (s.withoutLease id).Linked := by
  have find' : ∀ k e, (s.withoutLease id).find? k = some e ↔ s.find? k = some e ∧ e.lease ≠ id := by
    intro k e
    rw [find?_withoutLease h.entries_sorted, Option.filter_eq_some_iff, bne_iff_ne]
  have lease' : ∀ j, (s.withoutLease id).lease? j = if j = id then none else s.lease? j :=
    fun j => lease?_filter
  constructor
  · exact filter_sorted h.entries_sorted
  · exact h.leases_sorted.filter _
  · intro l hl
    exact h.keys_sorted l (List.mem_filter.1 hl).1
  · intro k e he hlease
    obtain ⟨he, hne⟩ := (find' k e).1 he
    obtain ⟨l, hl, mem⟩ := h.lease_of_entry k e he hlease
    exact ⟨l, by rw [lease', if_neg hne, hl], mem⟩
  · intro j l k hl mem
    rw [lease'] at hl
    split_ifs at hl with hj
    obtain ⟨e, he, rfl⟩ := h.entry_of_key j l k hl mem
    exact ⟨e, (find' k e).2 ⟨he, hj⟩, rfl⟩

theorem Linked.dropHeld (h : s.Linked) : (s.dropHeld id).Linked :=
  h.withoutLease.commit

theorem Linked.dropLease (h : s.Linked) (hid : id ≠ 0) : (s.dropLease id).Linked := by
  rw [dropLease_eq h hid]
  exact h.dropHeld

end Store
end ControlPlane
