import ControlPlane.Proofs.Store.Tables

/-!
# Writing one entry

The store keeps the keys of each lease by hand. A put takes its key off the lease the key held,
when the binding changes the lease, and lists it under the lease the binding names; a delete
takes its key off its lease. This module says what these two steps do through the lookups of
`Tables`, and proves that they keep the bookkeeping exact: every leased entry is listed by its
lease, and every listed key is an entry held by that lease. That holds for every binding, for a
key that moves from one lease to another, and for a key written twice in one transaction.

1. `LeaseBinding.target` and `Store.relink`: the lease a put leaves on its key, and the keys of
   each lease afterwards.
2. `putEntry_find?`, `putEntry_leases`, `deleteEntry_some`: the two steps through the lookups.
3. `Store.Linked`: the tables sorted and the bookkeeping exact; `Linked.putEntry` and
   `Linked.deleteEntry` keep it.
4. `Store.Written`: what holds along the writes of one transaction, and `applyWrites_ok`, which
   takes a successful transaction apart into its writes and one commit.
-/

namespace ControlPlane

/-- The lease a binding leaves on a key that was held by `old`. -/
def LeaseBinding.target (b : LeaseBinding) (old : LeaseId) : LeaseId :=
  match b with
  | .keep => old
  | .attach id => id
  | .detach => 0

/-- The keys of lease `j` after a put moved key `k` from lease `old` to lease `new`. -/
def relink (k : String) (old new j : LeaseId) (keys : List String) : List String :=
  let kept := if old ≠ new ∧ j = old then keys.erase k else keys
  if j = new then insertKey k kept else kept

theorem relink_sorted {k : String} {old new j : LeaseId} {keys : List String}
    (h : keys.Pairwise (· < ·)) : (relink k old new j keys).Pairwise (· < ·) := by
  unfold relink
  dsimp only
  split_ifs
  · exact insertKey_sorted (erase_sorted h)
  · exact insertKey_sorted h
  · exact erase_sorted h
  · exact h

theorem mem_relink {k k' : String} {old new j : LeaseId} {keys : List String}
    (h : keys.Pairwise (· < ·)) :
    k' ∈ relink k old new j keys ↔ (j = new ∧ k' = k) ∨ (k' ∈ keys ∧ ¬(k' = k ∧ old ≠ new ∧ j = old)) := by
  unfold relink
  by_cases moved : old ≠ new ∧ j = old
  · have hj : j ≠ new := fun hj => moved.1 (moved.2 ▸ hj)
    simp only [moved, and_self, if_true, if_false, false_and, false_or, ne_eq, not_false_eq_true,
      mem_erase_sorted h]
    tauto
  · simp only [moved, if_false]
    split_ifs with hj
    · simp only [mem_insertKey, hj, true_and]
      tauto
    · simp only [hj, false_and, false_or]
      tauto

namespace Store

variable {s : Store} {rev : Revision} {k k' : String} {v : String} {b : LeaseBinding}

/-- The lease that holds a key: 0 when the key has no entry or its entry no lease. -/
def leaseOf (s : Store) (k : String) : LeaseId := ((s.find? k).map (·.lease)).getD 0

@[simp] theorem mapLease_entries {id : LeaseId} {f : LeaseRecord → LeaseRecord} :
    (s.mapLease id f).entries = s.entries := rfl

/-- Changing the keys of every lease by its number, looked up. -/
theorem lease?_map_keys {ls : List LeaseRecord} {f : LeaseId → List String → List String}
    {j : LeaseId} :
    (ls.map fun (l : LeaseRecord) => { l with keys := f l.id l.keys }).find? (·.id == j) =
      (ls.find? (·.id == j)).map fun (l : LeaseRecord) => { l with keys := f j l.keys } := by
  rw [List.find?_map]
  have pred : ((fun l : LeaseRecord => l.id == j) ∘ fun (l : LeaseRecord) => { l with keys := f l.id l.keys }) =
      fun l => l.id == j := rfl
  rw [pred]
  cases hfind : ls.find? (·.id == j) with
  | none => rfl
  | some l =>
    have hl : l.id = j := by simpa using List.find?_some hfind
    simp [hl]

/-! ## A put -/

theorem putEntry_snd :
    (s.putEntry rev k v b).2 =
      ⟨.put, { key := k, value := v,
               createRevision := ((s.find? k).map (·.createRevision)).getD rev,
               modRevision := rev,
               version := ((s.find? k).map (·.version + 1)).getD 1,
               lease := b.target (s.leaseOf k) }⟩ := by
  cases b <;> rfl

theorem putEntry_entries :
    (s.putEntry rev k v b).1.entries = insertEntry (s.putEntry rev k v b).2.kv s.entries := by
  unfold putEntry
  dsimp only
  split_ifs <;> rfl

theorem putEntry_frame :
    ∃ es ls, (s.putEntry rev k v b).1 = { s with entries := es, leases := ls } := by
  unfold putEntry
  dsimp only
  split_ifs <;> exact ⟨_, _, rfl⟩

/-- The leases after a key moved from lease `old` to lease `new`. -/
theorem mapLease_relink (s : Store) (k : String) (old new : LeaseId) :
    ((if (old != new) = true then s.mapLease old fun l => { l with keys := l.keys.erase k } else s).mapLease
        new fun l => { l with keys := insertKey k l.keys }).leases =
      s.leases.map fun l => { l with keys := relink k old new l.id l.keys } := by
  split_ifs with moved
  · -- the key leaves its old lease and joins the new one
    have moved : old ≠ new := by simpa using moved
    simp only [mapLease, List.map_map]
    congr 1
    funext l
    by_cases hnew : l.id = new
    · simp [relink, hnew, moved, Ne.symm moved]
    · by_cases hold : l.id = old
      · simp [relink, hold, moved]
      · simp [relink, hnew, hold]
  · -- the key stays under its lease
    have same : old = new := by simpa using moved
    simp only [mapLease]
    congr 1
    funext l
    by_cases hnew : l.id = new
    · simp [relink, hnew, same]
    · simp [relink, hnew, same]

theorem putEntry_leases :
    (s.putEntry rev k v b).1.leases = s.leases.map fun l =>
      { l with keys := relink k (s.leaseOf k) (b.target (s.leaseOf k)) l.id l.keys } := by
  unfold putEntry
  cases b <;> exact mapLease_relink s k _ _

theorem putEntry_find? (h : EntriesSorted s.entries) :
    (s.putEntry rev k v b).1.find? k' =
      if k' = k then some (s.putEntry rev k v b).2.kv else s.find? k' := by
  simp only [find?, putEntry_entries]
  rw [find?_insertEntry h, putEntry_snd]
  by_cases hk : k' = k
  · simp [hk]
  · simp [hk, Ne.symm hk]

/-! ## A delete -/

theorem deleteEntry_none (h : s.find? k = none) : s.deleteEntry rev k = (s, none) := by
  simp [deleteEntry, h]

/-- A delete of a present key: the entry goes, and its lease no longer lists the key. -/
theorem deleteEntry_some {e : KeyValue} (h : s.find? k = some e) :
    s.deleteEntry rev k =
      ({ s with entries := s.entries.filter (·.key != k),
                leases := s.leases.map fun l =>
                  { l with keys := if l.id = e.lease then l.keys.erase k else l.keys } },
        some ⟨.delete, tombstone k rev⟩) := by
  simp only [deleteEntry, h, mapLease, Prod.mk.injEq, and_true]
  congr 2
  funext l
  by_cases hl : l.id = e.lease <;> simp [hl]

theorem deleteEntry_find? : (s.deleteEntry rev k).1.find? k' = if k' = k then none else s.find? k' := by
  cases hfind : s.find? k with
  | none =>
    rw [deleteEntry_none hfind]
    split_ifs with hk
    · rw [hk, hfind]
    · rfl
  | some e =>
    rw [deleteEntry_some hfind]
    exact find?_filter_key

theorem deleteEntry_leases {e : KeyValue} (h : s.find? k = some e) :
    (s.deleteEntry rev k).1.leases =
      s.leases.map fun l => { l with keys := if l.id = e.lease then l.keys.erase k else l.keys } := by
  rw [deleteEntry_some h]

theorem deleteEntry_lease? {e : KeyValue} {j : LeaseId} (h : s.find? k = some e) :
    (s.deleteEntry rev k).1.lease? j =
      (s.lease? j).map fun l => { l with keys := if j = e.lease then l.keys.erase k else l.keys } := by
  simp only [lease?, deleteEntry_leases h]
  exact lease?_map_keys (f := fun i ks => if i = e.lease then ks.erase k else ks)

/-! ## Exact bookkeeping -/

/-- The tables are sorted and the lease bookkeeping is exact: an entry under a lease is listed
by that lease, and a key a lease lists is an entry under that lease. -/
structure Linked (s : Store) : Prop where
  entries_sorted : EntriesSorted s.entries
  leases_sorted : s.leases.Pairwise (·.id < ·.id)
  keys_sorted : ∀ l ∈ s.leases, l.keys.Pairwise (· < ·)
  lease_of_entry : ∀ k e, s.find? k = some e → e.lease ≠ 0 →
    ∃ l, s.lease? e.lease = some l ∧ k ∈ l.keys
  entry_of_key : ∀ j l k, s.lease? j = some l → k ∈ l.keys →
    ∃ e, s.find? k = some e ∧ e.lease = j

/-- The lease of a key with an entry under a lease is in the table. -/
theorem Linked.lease_of_leaseOf (h : s.Linked) (hk : s.leaseOf k ≠ 0) :
    (s.lease? (s.leaseOf k)).isSome := by
  unfold leaseOf at hk ⊢
  cases hfind : s.find? k with
  | none => simp [hfind] at hk
  | some e =>
    simp only [hfind, Option.map_some, Option.getD_some] at hk ⊢
    obtain ⟨l, hl, -⟩ := h.lease_of_entry k e hfind hk
    simp [hl]

theorem Linked.leaseIds_nodup (h : s.Linked) : (s.leases.map (·.id)).Nodup :=
  (List.pairwise_map.2 h.leases_sorted).nodup

theorem Linked.lease_eq_of_id (h : s.Linked) {l l' : LeaseRecord} (hl : l ∈ s.leases)
    (hl' : l' ∈ s.leases) (same : l.id = l'.id) : l = l' :=
  List.inj_on_of_nodup_map h.leaseIds_nodup hl hl' same

theorem Linked.putEntry (h : s.Linked)
    (bound : b.target (s.leaseOf k) ≠ 0 → (s.lease? (b.target (s.leaseOf k))).isSome) :
    (s.putEntry rev k v b).1.Linked := by
  set old := s.leaseOf k with hold
  set new := b.target old with hnew
  have find' : ∀ k', (s.putEntry rev k v b).1.find? k' =
      if k' = k then some (s.putEntry rev k v b).2.kv else s.find? k' :=
    fun _ => putEntry_find? h.entries_sorted
  have lease' : ∀ j, (s.putEntry rev k v b).1.lease? j =
      (s.lease? j).map fun l => { l with keys := relink k old new j l.keys } := by
    intro j
    simp only [lease?, putEntry_leases]
    exact lease?_map_keys
  have written : (s.putEntry rev k v b).2.kv.lease = new := by rw [putEntry_snd]
  constructor
  · rw [putEntry_entries]
    exact insertEntry_sorted h.entries_sorted
  · rw [putEntry_leases]
    exact List.pairwise_map.2 h.leases_sorted
  · intro l hl
    rw [putEntry_leases] at hl
    obtain ⟨l₀, h₀, rfl⟩ := List.mem_map.1 hl
    exact relink_sorted (h.keys_sorted l₀ h₀)
  · intro k'' e he hlease
    rw [find' k''] at he
    by_cases hk : k'' = k
    · -- the written entry is listed by the lease it was put under
      simp only [hk, if_true, Option.some.injEq] at he
      subst he
      rw [written] at hlease ⊢
      obtain ⟨l, hl⟩ := Option.isSome_iff_exists.1 (bound hlease)
      refine ⟨_, by rw [lease', hl]; rfl, ?_⟩
      have sorted := h.keys_sorted l (lease?_eq_some hl).2
      exact (mem_relink sorted).2 (.inl ⟨rfl, hk⟩)
    · -- any other entry keeps its lease, which still lists it
      simp only [hk, if_false] at he
      obtain ⟨l, hl, mem⟩ := h.lease_of_entry k'' e he hlease
      refine ⟨_, by rw [lease', hl]; rfl, ?_⟩
      have sorted := h.keys_sorted l (lease?_eq_some hl).2
      exact (mem_relink sorted).2 (.inr ⟨mem, fun c => hk c.1⟩)
  · intro j l' k'' hl' mem
    rw [lease'] at hl'
    obtain ⟨l, hl, rfl⟩ := Option.map_eq_some_iff.1 hl'
    have sorted := h.keys_sorted l (lease?_eq_some hl).2
    rcases (mem_relink sorted).1 mem with ⟨hj, rfl⟩ | ⟨listed, kept⟩
    · exact ⟨_, by rw [find' k'', if_pos rfl], by rw [written, hj]⟩
    · by_cases hk : k'' = k
      · -- a key listed before and still listed did not move: its lease is the new one
        subst hk
        obtain ⟨e, he, hej⟩ := h.entry_of_key j l k'' hl listed
        have held : old = j := by simp [hold, leaseOf, he, hej]
        have stays : old = new := by
          by_contra moved
          exact kept ⟨rfl, moved, held.symm⟩
        exact ⟨_, by rw [find' k'', if_pos rfl], by rw [written, ← stays, held]⟩
      · obtain ⟨e, he, hej⟩ := h.entry_of_key j l k'' hl listed
        exact ⟨e, by rw [find' k'', if_neg hk, he], hej⟩

theorem Linked.deleteEntry (h : s.Linked) : (s.deleteEntry rev k).1.Linked := by
  cases hfind : s.find? k with
  | none => rw [deleteEntry_none hfind]; exact h
  | some e =>
    have lease' : ∀ j, (s.deleteEntry rev k).1.lease? j =
        (s.lease? j).map fun l => { l with keys := if j = e.lease then l.keys.erase k else l.keys } :=
      fun _ => deleteEntry_lease? hfind
    have find' : ∀ k', (s.deleteEntry rev k).1.find? k' = if k' = k then none else s.find? k' :=
      fun _ => deleteEntry_find?
    constructor
    · rw [deleteEntry_some hfind]
      exact filter_sorted h.entries_sorted
    · rw [deleteEntry_leases hfind]
      exact List.pairwise_map.2 h.leases_sorted
    · intro l hl
      rw [deleteEntry_leases hfind] at hl
      obtain ⟨l₀, h₀, rfl⟩ := List.mem_map.1 hl
      have sorted := h.keys_sorted l₀ h₀
      split_ifs
      · exact erase_sorted sorted
      · exact sorted
    · intro k'' e'' he hlease
      rw [find' k''] at he
      split_ifs at he with hk
      obtain ⟨l, hl, mem⟩ := h.lease_of_entry k'' e'' he hlease
      refine ⟨_, by rw [lease', hl]; rfl, ?_⟩
      split_ifs
      · exact (mem_erase_sorted (h.keys_sorted l (lease?_eq_some hl).2)).2 ⟨hk, mem⟩
      · exact mem
    · intro j l' k'' hl' mem
      rw [lease'] at hl'
      obtain ⟨l, hl, rfl⟩ := Option.map_eq_some_iff.1 hl'
      have sorted := h.keys_sorted l (lease?_eq_some hl).2
      -- the deleted key is no longer listed: off its own lease by the erase, and no other
      -- lease listed it
      have listed : k'' ∈ l.keys ∧ k'' ≠ k := by
        split_ifs at mem with hj
        · exact ((mem_erase_sorted sorted).1 mem).symm
        · refine ⟨mem, fun hk => hj ?_⟩
          subst hk
          obtain ⟨e', he', hej⟩ := h.entry_of_key j l k'' hl mem
          rw [hfind] at he'
          cases he'
          exact hej.symm
      obtain ⟨e', he', hej⟩ := h.entry_of_key j l k'' hl listed.1
      exact ⟨e', by rw [find' k'', if_neg listed.2, he'], hej⟩


/-! ## A commit -/

section Commit

variable {evs : List WatchEvent}

@[simp] theorem commit_nil : s.commit rev [] = s := by simp [commit]

@[simp] theorem commit_entries : (s.commit rev evs).entries = s.entries := by
  unfold commit; split <;> rfl

@[simp] theorem commit_leases : (s.commit rev evs).leases = s.leases := by
  unfold commit; split <;> rfl

@[simp] theorem commit_nextLease : (s.commit rev evs).nextLease = s.nextLease := by
  unfold commit; split <;> rfl

@[simp] theorem commit_find? : (s.commit rev evs).find? k = s.find? k := by
  simp [find?]

@[simp] theorem commit_lease? {j : LeaseId} : (s.commit rev evs).lease? j = s.lease? j := by
  simp [lease?]

theorem Linked.commit (h : s.Linked) : (s.commit rev evs).Linked where
  entries_sorted := by rw [commit_entries]; exact h.entries_sorted
  leases_sorted := by rw [commit_leases]; exact h.leases_sorted
  keys_sorted := by rw [commit_leases]; exact h.keys_sorted
  lease_of_entry := by simpa using h.lease_of_entry
  entry_of_key := by simpa using h.entry_of_key

end Commit

/-! ## The writes of one transaction -/

/-- One write of a transaction at revision `rev`, after the writes and events before it. -/
def writeStep (rev : Revision) (acc : Store × List WatchEvent) (op : WriteOp) :
    Store × List WatchEvent :=
  match op with
  | .put k v b => let (s, e) := acc.1.putEntry rev k v b; (s, acc.2 ++ [e])
  | .delete k => let (s, e) := acc.1.deleteEntry rev k; (s, acc.2 ++ e.toList)

theorem applyWrites_eq (ops : List WriteOp) :
    s.applyWrites ops = match s.missingLease? ops with
      | some id => .error (StoreError.leaseNotFound id)
      | none =>
        let r := ops.foldl (writeStep (s.revision + 1)) (s, [])
        .ok (r.1.commit (s.revision + 1) r.2) := rfl

/-- Every lease a transaction attaches is in the table once the check found none missing. -/
theorem lease?_of_missingLease? {ops : List WriteOp} (h : s.missingLease? ops = none) :
    ∀ op ∈ ops, ∀ k v id, op = .put k v (.attach id) → (s.lease? id).isSome := by
  intro op hop k v id hput
  subst hput
  have := List.findSome?_eq_none_iff.1 h _ hop
  simp only at this
  rw [← hasLease_iff]
  by_contra missing
  simp [missing] at this

theorem lease?_isSome_iff {j : LeaseId} : (s.lease? j).isSome ↔ j ∈ s.leases.map (·.id) := by
  simp [lease?, List.find?_isSome]

/-- What holds after some writes of a transaction at revision `rev` on store `s`: only the
entries and the leases changed, the bookkeeping is exact, every entry is bounded by `rev`, every
event so far is stamped `rev`, and as long as there is no event nothing changed. -/
structure Written (s : Store) (rev : Revision) (acc : Store × List WatchEvent) : Prop where
  frame : ∃ es ls, acc.1 = { s with entries := es, leases := ls }
  linked : acc.1.Linked
  ids : acc.1.leases.map (·.id) = s.leases.map (·.id)
  bounded : ∀ k e, acc.1.find? k = some e →
    1 ≤ e.version ∧ e.createRevision ≤ e.modRevision ∧ e.modRevision ≤ rev
  stamped : ∀ ev ∈ acc.2, ev.kv.modRevision = rev
  quiet : acc.2 = [] → acc.1 = s

theorem Written.start (h : s.Linked) (hrev : s.revision < rev)
    (hbound : ∀ k e, s.find? k = some e →
      1 ≤ e.version ∧ e.createRevision ≤ e.modRevision ∧ e.modRevision ≤ s.revision) :
    Written s rev (s, []) where
  frame := ⟨s.entries, s.leases, rfl⟩
  linked := h
  ids := rfl
  bounded k e he := by
    obtain ⟨h1, h2, h3⟩ := hbound k e he
    exact ⟨h1, h2, by grind⟩
  stamped := by simp
  quiet _ := rfl

theorem Written.put {acc : Store × List WatchEvent} (hw : Written s rev acc)
    (hattach : ∀ id, b = .attach id → (s.lease? id).isSome) :
    Written s rev (writeStep rev acc (.put k v b)) := by
  obtain ⟨t, evs⟩ := acc
  obtain ⟨es, ls, rfl⟩ := hw.frame
  simp only [writeStep]
  set t : Store := { s with entries := es, leases := ls } with ht
  have ids' : (t.putEntry rev k v b).1.leases.map (·.id) = t.leases.map (·.id) := by
    rw [putEntry_leases, List.map_map]
    rfl
  -- the lease a put binds is in the table: attached ones were checked, kept ones are linked
  have bound : b.target (t.leaseOf k) ≠ 0 → (t.lease? (b.target (t.leaseOf k))).isSome := by
    intro hne
    cases b with
    | keep => exact hw.linked.lease_of_leaseOf hne
    | attach id =>
      rw [lease?_isSome_iff, hw.ids, ← lease?_isSome_iff]
      exact hattach id rfl
    | detach => exact absurd rfl hne
  constructor
  · obtain ⟨es', ls', hfr⟩ : ∃ es ls, (t.putEntry rev k v b).1 = { t with entries := es, leases := ls } :=
      putEntry_frame
    exact ⟨es', ls', by rw [hfr]⟩
  · exact hw.linked.putEntry bound
  · rw [ids']
    exact hw.ids
  · intro k' e he
    rw [putEntry_find? hw.linked.entries_sorted] at he
    split_ifs at he with hk
    · -- the written entry: a version past the old one, created no later than `rev`
      cases he
      rw [putEntry_snd]
      dsimp only
      cases hold : t.find? k with
      | none => simp
      | some old =>
        obtain ⟨h1, h2, h3⟩ := hw.bounded k old hold
        simp only [Option.map_some, Option.getD_some]
        exact ⟨by omega, by grind, le_refl rev⟩
    · exact hw.bounded k' e he
  · intro ev hev
    rcases List.mem_append.1 hev with hev | hev
    · exact hw.stamped ev hev
    · rw [List.mem_singleton.1 hev, putEntry_snd]
  · intro hnil
    simp at hnil

theorem Written.delete {acc : Store × List WatchEvent} (hw : Written s rev acc) :
    Written s rev (writeStep rev acc (.delete k)) := by
  obtain ⟨t, evs⟩ := acc
  simp only [writeStep]
  cases hfind : t.find? k with
  | none =>
    rw [deleteEntry_none hfind]
    simpa using hw
  | some e =>
    obtain ⟨es, ls, hfr⟩ := hw.frame
    constructor
    · rw [deleteEntry_some hfind]
      exact ⟨_, _, by simp only at hfr; rw [hfr]⟩
    · exact hw.linked.deleteEntry
    · rw [deleteEntry_leases hfind, List.map_map]
      exact hw.ids
    · intro k' e' he
      rw [deleteEntry_find?] at he
      split_ifs at he
      exact hw.bounded k' e' he
    · intro ev hev
      rw [deleteEntry_some hfind] at hev
      rcases List.mem_append.1 hev with hev | hev
      · exact hw.stamped ev hev
      · simp only [Option.toList_some, List.mem_singleton] at hev
        rw [hev]
        rfl
    · intro hnil
      rw [deleteEntry_some hfind] at hnil
      simp at hnil

theorem Written.foldl {ops : List WriteOp}
    (hattach : ∀ op ∈ ops, ∀ k v id, op = .put k v (.attach id) → (s.lease? id).isSome) :
    ∀ {acc : Store × List WatchEvent}, Written s rev acc → Written s rev (ops.foldl (writeStep rev) acc) := by
  induction ops with
  | nil => intro acc hw; exact hw
  | cons op ops ih =>
    intro acc hw
    rw [List.foldl_cons]
    apply ih (fun op' hop' => hattach op' (List.mem_cons_of_mem _ hop'))
    cases op with
    | put k v b => exact hw.put fun id hid => hattach _ List.mem_cons_self k v id (by rw [hid])
    | delete k => exact hw.delete

/-- A successful transaction is its writes on a linked store, then one commit of their events. -/
theorem applyWrites_ok {ops : List WriteOp} {s' : Store} (h : s.Linked)
    (bounded : ∀ k e, s.find? k = some e →
      1 ≤ e.version ∧ e.createRevision ≤ e.modRevision ∧ e.modRevision ≤ s.revision)
    (hok : s.applyWrites ops = .ok s') :
    ∃ acc, Written s (s.revision + 1) acc ∧ s' = acc.1.commit (s.revision + 1) acc.2 := by
  rw [applyWrites_eq] at hok
  split at hok
  · cases hok
  · rename_i hnone
    cases hok
    exact ⟨_, (Written.start h (by grind) bounded : Written s (s.revision + 1) (s, [])).foldl fun op hop k v id hput =>
      lease?_of_missingLease? hnone op hop k v id hput, rfl⟩

end Store

end ControlPlane
