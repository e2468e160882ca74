import ControlPlane.Proofs.Store.Leases
import ControlPlane.Proofs.Store.History
import ControlPlane.Store.Watch

/-!
# The store's invariant

Every state the store reaches from an empty one, by any calls at any moments on the clock,
keeps its tables in shape:

* the bookkeeping between entries and leases is exact (`Store.Linked`);
* the lease numbers in the table lie between 1 and the next number to grant;
* every entry has a version of at least 1 and was created no later than it was last changed,
  which is no later than the store's revision;
* the history is one run of consecutive revisions up to the current one (`Store.Chained`).

On such a state a lease drop deletes exactly the keys the lease holds, and nothing else
(`Store.dropHeld`): a revoke is the sweep, then that drop, and the sweep is that drop of each
lease whose time is up, in number order.

1. `Store.Consistent`: the invariant; one lemma for each way the store changes.
2. `Store.Call`, `Store.Reachable`: the calls and the states they reach.
3. `Store.reachable_invariant`: the invariant and the exact drops on every reachable state.
-/

namespace ControlPlane

theorem Except.bind_eq_ok {ε α β : Type} {x : Except ε α} {f : α → Except ε β} {b : β}
    (h : (x >>= f) = .ok b) : ∃ a, x = .ok a ∧ f a = .ok b := by
  cases x with
  | error e => cases h
  | ok a => exact ⟨a, rfl, h⟩

namespace Store

variable {s t : Store} {id : LeaseId} {now : Nat}

theorem Linked.congr (h : s.Linked) (he : t.entries = s.entries) (hl : t.leases = s.leases) :
    t.Linked := by
  have find' : t.find? = s.find? := by funext k; simp [find?, he]
  have lease' : t.lease? = s.lease? := by funext j; simp [lease?, hl]
  obtain ⟨entries_sorted, leases_sorted, keys_sorted, lease_of_entry, entry_of_key⟩ := h
  exact ⟨he ▸ entries_sorted, hl ▸ leases_sorted, hl ▸ keys_sorted,
    find' ▸ lease' ▸ lease_of_entry, find' ▸ lease' ▸ entry_of_key⟩

theorem revision_le_commit {evs : List WatchEvent} :
    s.revision ≤ (s.commit (s.revision + 1) evs).revision := by
  rw [commit_revision]
  split <;> grind

/-- The store's invariant. -/
structure Consistent (s : Store) : Prop extends Store.Linked s, Store.Chained s where
  lease_ids : ∀ l ∈ s.leases, 1 ≤ l.id ∧ l.id < s.nextLease
  nextLease_pos : 1 ≤ s.nextLease
  entry_bounds : ∀ e ∈ s.entries,
    1 ≤ e.version ∧ e.createRevision ≤ e.modRevision ∧ e.modRevision ≤ s.revision

/-- The invariant reads the entries, the leases, the revision, the history, the first retained
revision and the next lease number, and nothing else. -/
theorem Consistent.congr (h : s.Consistent) (he : t.entries = s.entries)
    (hl : t.leases = s.leases) (hr : t.revision = s.revision) (hh : t.history = s.history)
    (hf : t.firstRetained = s.firstRetained) (hn : t.nextLease = s.nextLease) : t.Consistent where
  toLinked := h.toLinked.congr he hl
  toChained := h.toChained.congr hr hh hf
  lease_ids := by rw [hl, hn]; exact h.lease_ids
  nextLease_pos := by rw [hn]; exact h.nextLease_pos
  entry_bounds := by rw [he, hr]; exact h.entry_bounds

theorem Consistent.publish (h : s.Consistent) : s.publish.Consistent :=
  h.congr rfl rfl rfl rfl rfl rfl

theorem Consistent.lease?_zero (h : s.Consistent) : s.lease? 0 = none := by
  apply List.find?_eq_none.2
  intro l hl same
  have := (h.lease_ids l hl).1
  simp only [beq_iff_eq] at same
  grind

/-! ## Lease drops and the sweep -/

theorem Consistent.dropHeld (h : s.Consistent) : (s.dropHeld id).Consistent where
  toLinked := h.toLinked.dropHeld
  toChained := by
    have before : (s.withoutLease id).Chained := h.toChained.congr rfl rfl rfl
    apply before.commit
    intro ev hev
    simp only [leaseTombstones, List.mem_map] at hev
    obtain ⟨e, -, rfl⟩ := hev
    rfl
  lease_ids l hl := by
    simp only [Store.dropHeld, commit_leases, commit_nextLease, withoutLease] at hl ⊢
    exact h.lease_ids l (List.mem_filter.1 hl).1
  nextLease_pos := by simpa [Store.dropHeld, withoutLease] using h.nextLease_pos
  entry_bounds e he := by
    simp only [Store.dropHeld, commit_entries, withoutLease] at he
    obtain ⟨h1, h2, h3⟩ := h.entry_bounds e (List.mem_filter.1 he).1
    -- the commit moves the revision forward, if at all
    have later : s.revision ≤ (s.dropHeld id).revision := revision_le_commit
    exact ⟨h1, h2, le_trans h3 later⟩

theorem Consistent.dropLease (h : s.Consistent) : (s.dropLease id).Consistent := by
  by_cases hid : id = 0
  · rw [hid, dropLease_of_none h.lease?_zero]
    exact h
  · rw [dropLease_eq h.toLinked hid]
    exact h.dropHeld

/-- The numbers of the leases whose time is up at `now`, ascending. -/
def dueLeases (s : Store) (now : Nat) : List LeaseId :=
  ((s.leases.filter (LeaseRecord.isDue now)).map (·.id)).mergeSort (· ≤ ·)

theorem expire_eq : s.expire now = (s.dueLeases now).foldl Store.dropLease s := rfl

theorem Consistent.foldl_dropLease :
    ∀ (ids : List LeaseId) {s : Store}, s.Consistent → (ids.foldl Store.dropLease s).Consistent
  | [], _, h => h
  | _ :: ids, _, h => Consistent.foldl_dropLease ids h.dropLease

theorem Consistent.expire (h : s.Consistent) : (s.expire now).Consistent :=
  Consistent.foldl_dropLease _ h

/-- Dropping leases other than 0 one after another, each drop deletes exactly what the lease
holds at its turn. -/
theorem foldl_dropLease_eq :
    ∀ (ids : List LeaseId) {s : Store}, s.Consistent → (∀ id ∈ ids, id ≠ 0) →
      ids.foldl Store.dropLease s = ids.foldl Store.dropHeld s
  | [], _, _, _ => rfl
  | id :: ids, s, h, hids => by
    have hid : id ≠ 0 := hids id List.mem_cons_self
    rw [List.foldl_cons, List.foldl_cons, dropLease_eq h.toLinked hid]
    exact foldl_dropLease_eq ids h.dropHeld fun j hj => hids j (List.mem_cons_of_mem _ hj)

theorem mem_dueLeases :
    id ∈ s.dueLeases now ↔ ∃ l ∈ s.leases, LeaseRecord.isDue now l = true ∧ l.id = id := by
  simp only [dueLeases, List.mem_mergeSort, List.mem_map, List.mem_filter, and_assoc]

/-- The sweep drops each lease whose time is up, in number order, deleting exactly the keys it
holds at its turn. -/
theorem Consistent.expire_eq_dropHeld (h : s.Consistent) :
    s.expire now = (s.dueLeases now).foldl Store.dropHeld s := by
  rw [expire_eq]
  apply foldl_dropLease_eq _ h
  intro id hid
  obtain ⟨l, hl, -, rfl⟩ := mem_dueLeases.1 hid
  have := (h.lease_ids l hl).1
  grind

/-! ## Writes, grants and renewals -/

theorem Consistent.applyWrites {ops : List WriteOp} {s' : Store} (h : s.Consistent)
    (hok : s.applyWrites ops = .ok s') : s'.Consistent := by
  have bounded : ∀ k e, s.find? k = some e →
      1 ≤ e.version ∧ e.createRevision ≤ e.modRevision ∧ e.modRevision ≤ s.revision :=
    fun k e he => h.entry_bounds e (find?_key he).2
  obtain ⟨⟨t, evs⟩, hw, rfl⟩ := applyWrites_ok h.toLinked bounded hok
  obtain ⟨es, ls, rfl⟩ := hw.frame
  -- writes that changed nothing commit nothing
  by_cases quiet : evs = []
  · subst quiet
    rw [hw.quiet rfl, commit_nil]
    exact h
  have hrev : ({ s with entries := es, leases := ls }.commit (s.revision + 1) evs).revision =
      s.revision + 1 := by
    rw [commit_revision, if_neg (by simpa using quiet)]
  constructor
  · exact hw.linked.commit
  · have before : ({ s with entries := es, leases := ls } : Store).Chained :=
      h.toChained.congr rfl rfl rfl
    exact before.commit hw.stamped
  · intro l hl
    rw [commit_leases] at hl
    have hid : l.id ∈ s.leases.map (·.id) := hw.ids ▸ List.mem_map_of_mem hl
    obtain ⟨l₀, hl₀, same⟩ := List.mem_map.1 hid
    rw [commit_nextLease, ← same]
    exact h.lease_ids l₀ hl₀
  · rw [commit_nextLease]
    exact h.nextLease_pos
  · intro e he
    rw [commit_entries] at he
    rw [hrev]
    exact hw.bounded e.key e (find?_of_mem hw.linked.entries_sorted he)

/-- A new lease under the next number, holding no key. -/
theorem Consistent.addLease (h : s.Consistent) (ttl : Int) (deadline : Option Nat) :
    ({ s with nextLease := s.nextLease + 1,
               leases := s.leases ++ [{ id := s.nextLease, ttl, deadline }] } : Store).Consistent := by
  set t : Store := { s with nextLease := s.nextLease + 1,
                            leases := s.leases ++ [{ id := s.nextLease, ttl, deadline }] } with ht
  have fresh : s.lease? s.nextLease = none := by
    apply List.find?_eq_none.2
    intro l hl same
    have := (h.lease_ids l hl).2
    simp only [beq_iff_eq] at same
    grind
  -- the new lease answers its own number, every other number finds what it found before
  have lease' : ∀ j, t.lease? j = if j = s.nextLease then some { id := s.nextLease, ttl, deadline }
      else s.lease? j := by
    intro j
    simp only [ht, lease?, List.find?_append, List.find?_singleton]
    by_cases hj : j = s.nextLease
    · subst hj
      rw [show s.leases.find? (·.id == s.nextLease) = none from fresh]
      simp
    · simp [hj, Ne.symm hj]
  have find' : t.find? = s.find? := rfl
  constructor
  · constructor
    · exact h.entries_sorted
    · apply List.pairwise_append.2
      refine ⟨h.leases_sorted, List.pairwise_singleton _ _, ?_⟩
      intro l hl l' hl'
      rw [List.mem_singleton.1 hl']
      exact (h.lease_ids l hl).2
    · intro l hl
      rcases List.mem_append.1 hl with hl | hl
      · exact h.keys_sorted l hl
      · rw [List.mem_singleton.1 hl]
        exact List.Pairwise.nil
    · intro k e he hlease
      obtain ⟨l, hl, mem⟩ := h.lease_of_entry k e he hlease
      have : e.lease ≠ s.nextLease := by
        intro same
        rw [same, fresh] at hl
        cases hl
      exact ⟨l, by rw [lease', if_neg this, hl], mem⟩
    · intro j l k hl mem
      rw [lease'] at hl
      split_ifs at hl with hj
      · cases hl
        simp at mem
      · exact h.entry_of_key j l k hl mem
  · exact h.toChained.congr rfl rfl rfl
  · intro l hl
    rcases List.mem_append.1 hl with hl | hl
    · have := h.lease_ids l hl
      grind
    · rw [List.mem_singleton.1 hl]
      have := h.nextLease_pos
      grind
  · have := h.nextLease_pos
    grind
  · exact h.entry_bounds

/-- A renewal changes a lease's deadline and nothing else of it. -/
theorem Consistent.renew (h : s.Consistent) (deadline : Option Nat) :
    (s.mapLease id fun l => { l with deadline }).Consistent := by
  set t := s.mapLease id fun l => { l with deadline } with ht
  have lease' : ∀ j, t.lease? j = (s.lease? j).map fun l => if j = id then { l with deadline } else l :=
    fun j => lease?_mapLease fun _ => rfl
  -- every lease keeps its number and its keys
  have same : ∀ l ∈ t.leases, ∃ l₀ ∈ s.leases, l.id = l₀.id ∧ l.keys = l₀.keys := by
    intro l hl
    obtain ⟨l₀, hl₀, rfl⟩ := mem_mapLease hl
    exact ⟨l₀, hl₀, by split_ifs <;> rfl, by split_ifs <;> rfl⟩
  constructor
  · constructor
    · exact h.entries_sorted
    · have ids : t.leases.map (·.id) = s.leases.map (·.id) := mapLease_ids fun _ => rfl
      have := h.leases_sorted
      rw [← List.pairwise_map] at this ⊢
      rw [ids]
      exact this
    · intro l hl
      obtain ⟨l₀, hl₀, -, hkeys⟩ := same l hl
      rw [hkeys]
      exact h.keys_sorted l₀ hl₀
    · intro k e he hlease
      obtain ⟨l, hl, mem⟩ := h.lease_of_entry k e he hlease
      refine ⟨if e.lease = id then { l with deadline } else l, ?_, ?_⟩
      · rw [lease', hl]
        rfl
      · split_ifs <;> exact mem
    · intro j l k hl mem
      rw [lease'] at hl
      obtain ⟨l₀, hl₀, rfl⟩ := Option.map_eq_some_iff.1 hl
      have mem₀ : k ∈ l₀.keys := by split_ifs at mem <;> exact mem
      exact h.entry_of_key j l₀ k hl₀ mem₀
  · exact h.toChained.congr rfl rfl rfl
  · intro l hl
    obtain ⟨l₀, hl₀, hid, -⟩ := same l hl
    rw [hid]
    exact h.lease_ids l₀ hl₀
  · exact h.nextLease_pos
  · exact h.entry_bounds

theorem Consistent.compact (h : s.Consistent) (rev : Revision) : (s.compact rev).Consistent where
  toLinked := h.toLinked.congr rfl rfl
  toChained := h.toChained.compact rev
  lease_ids := h.lease_ids
  nextLease_pos := h.nextLease_pos
  entry_bounds := h.entry_bounds

/-! ## Calls -/

/-- A call keeps the invariant when its work does, on every state it may find after the sweep. -/
theorem Consistent.call {α : Type} {work : Store → Except StoreError (α × Store)}
    (h : s.Consistent)
    (hwork : ∀ t a t', t.Consistent → work t = .ok (a, t') → t'.Consistent) :
    (s.call now work).2.Consistent := by
  have swept : (s.expire now).Consistent := h.expire
  cases hw : work (s.expire now) with
  | ok r =>
    obtain ⟨a, t'⟩ := r
    simp only [Store.call, hw]
    exact (hwork _ a t' swept hw).publish
  | error e =>
    simp only [Store.call, hw]
    exact swept.publish

/-- The calls of the store, each at its moment on the clock; `compact`, `poll` and `unwatch`
do not sweep. -/
inductive Call where
  | get (now : Nat) (key : String)
  | read (now : Nat) (r : RangeRequest)
  | put (now : Nat) (key value : String) (binding : LeaseBinding)
  | delete (now : Nat) (key : String)
  | txn (now : Nat) (w : ConditionalWrite)
  | grant (now : Nat) (ttl : Int)
  | revoke (now : Nat) (id : LeaseId)
  | keepAlive (now : Nat) (id : LeaseId)
  | reap (now : Nat)
  | watch (now : Nat) (filter : KeyFilter) (start : Revision)
  | poll (sub : Subscription)
  | unwatch (sub : Subscription)
  | compact (rev : Revision)

/-- The state a call leaves. -/
def Call.apply : Call → Store → Store
  | .get now key, s => (s.get now key).2
  | .read now r, s => (s.read now r).2
  | .put now key value binding, s => (s.put now key value binding).2
  | .delete now key, s => (s.delete now key).2
  | .txn now w, s => (s.txn now w).2
  | .grant now ttl, s => (s.grant now ttl).2
  | .revoke now id, s => (s.revoke now id).2
  | .keepAlive now id, s => (s.keepAlive now id).2
  | .reap now, s => s.reap now
  | .watch now filter start, s => (s.watch now filter start).2
  | .poll sub, s => (s.poll sub).2.2
  | .unwatch sub, s => s.unwatch sub
  | .compact rev, s => s.compact rev

/-- The states an empty store reaches by calls. -/
inductive Reachable : Store → Prop where
  | make (historyLimit channelCapacity : Nat) : Reachable (Store.make historyLimit channelCapacity)
  | call {s : Store} (c : Call) : Reachable s → Reachable (c.apply s)

theorem consistent_make (historyLimit channelCapacity : Nat) :
    (Store.make historyLimit channelCapacity).Consistent where
  entries_sorted := List.Pairwise.nil
  leases_sorted := List.Pairwise.nil
  keys_sorted := by simp [Store.make]
  lease_of_entry := by simp [Store.make, find?]
  entry_of_key := by simp [Store.make, lease?]
  consecutive := by simp [Consecutive, Store.make]
  complete := by simp [Store.make]
  stamped := by simp [Store.make]
  lease_ids := by simp [Store.make]
  nextLease_pos := le_refl _
  entry_bounds := by simp [Store.make]

theorem Consistent.writeCall {α : Type} {f : Store → List WriteOp} {g : Store → Store → α}
    (h : s.Consistent) :
    (s.call now fun s => do let s' ← s.applyWrites (f s); pure (g s s', s')).2.Consistent := by
  apply h.call
  intro t a t' ht hok
  obtain ⟨t'', hw, hpure⟩ := Except.bind_eq_ok hok
  cases hpure
  exact ht.applyWrites hw

theorem Consistent.apply (h : s.Consistent) (c : Call) : (c.apply s).Consistent := by
  cases c with
  | get now key =>
    exact h.call fun t a t' ht hok => by cases hok; exact ht
  | read now r =>
    exact h.call fun t a t' ht hok => by cases hok; exact ht
  | put now key value binding => exact h.writeCall
  | delete now key => exact h.writeCall
  | txn now w => exact h.writeCall
  | grant now ttl =>
    apply h.call
    intro t a t' ht hok
    obtain ⟨deadline, -, hpure⟩ := Except.bind_eq_ok hok
    cases hpure
    exact ht.addLease ttl deadline
  | revoke now id =>
    apply h.call
    intro t a t' ht hok
    split at hok
    · cases hok
      exact ht.dropLease
    · cases hok
  | keepAlive now id =>
    apply h.call
    intro t a t' ht hok
    split at hok
    · cases hok
    · obtain ⟨deadline, -, hpure⟩ := Except.bind_eq_ok hok
      cases hpure
      exact ht.renew deadline
  | reap now =>
    exact h.call fun t a t' ht hok => by cases hok; exact ht
  | watch now filter start =>
    -- the watch sweeps, opens a receiver and sends: only the hub changes after the sweep
    have opened : ({ s.expire now with hub := (s.expire now).hub.subscribe.1 } : Store).Consistent :=
      (h.expire : (s.expire now).Consistent).congr rfl rfl rfl rfl rfl rfl
    exact opened.publish
  | poll sub => exact h.congr rfl rfl rfl rfl rfl rfl
  | unwatch sub => exact h.congr rfl rfl rfl rfl rfl rfl
  | compact rev => exact h.compact rev

theorem Reachable.consistent (h : Reachable s) : s.Consistent := by
  induction h with
  | make historyLimit channelCapacity => exact consistent_make historyLimit channelCapacity
  | call c _ ih => exact ih.apply c

theorem revoke_of_ok (hok : (s.revoke now id).1 = .ok ()) :
    (s.expire now).hasLease id = true ∧
      (s.revoke now id).2 = ((s.expire now).dropLease id).publish := by
  by_cases held : (s.expire now).hasLease id = true
  · simp [Store.revoke, Store.call, held, pure, Except.pure]
  · simp [Store.revoke, Store.call, held] at hok

/-- Every state an empty store reaches by calls keeps its invariant, keeps the batch of every
revision a watch may start from, and drops leases exactly: a revoke that succeeds is the sweep,
then the drop of the lease with exactly the entries it holds, in one commit; the sweep drops
each lease whose time is up in the same way, in number order. -/
theorem reachable_invariant (h : Reachable s) :
    s.Consistent ∧
    (∀ r, max s.firstRetained 2 ≤ r → r ≤ s.revision → ∃ b ∈ s.history, b.revision = r) ∧
    (∀ now id, (s.revoke now id).1 = .ok () →
      (s.revoke now id).2 = ((s.expire now).dropHeld id).publish) ∧
    (∀ now, s.expire now = (s.dueLeases now).foldl Store.dropHeld s) := by
  have hc := h.consistent
  refine ⟨hc, fun r hlow hhigh => hc.batch_of_revision hlow hhigh, ?_, fun now => hc.expire_eq_dropHeld⟩
  intro now id hok
  have swept : (s.expire now).Consistent := hc.expire
  obtain ⟨held, revoked⟩ := revoke_of_ok hok
  -- a lease of the table has a number other than 0
  have hid : id ≠ 0 := by
    intro zero
    rw [zero, hasLease_iff, swept.lease?_zero] at held
    cases held
  rw [revoked, dropLease_eq swept.toLinked hid]

theorem granted_store_consistent : ((Call.grant 0 10).apply (Store.make 4 4)).Consistent :=
  (reachable_invariant (.call (.grant 0 10) (.make 4 4))).1

end Store

end ControlPlane
