import ControlPlane.Proofs.Store.Keys

/-!
# What a call does to an entry

`Proofs.Store.Keys` sees a key as its value and its lease. Some properties of keys are about
their revisions: how often an entry was written since it was created, and at which revision.
This module describes a call at the level of whole entries, in the same two parts. The sweep,
and a revoke, remove entries held by leases, keep every other entry as it was and move the
revision no lower (`Store.Prunes`). Then the call's writes, if it has any and they apply,
change each key one write after another (`WriteOp.entryAfter`) at the revision after the swept
store's (`Call.find_apply`).
-/

namespace ControlPlane

/-- The entry of key `k` after one write at revision `rev`, given its entry before. A put
writes the value under the lease its binding picks, keeps the creation revision and counts one
more version; a delete removes the entry. -/
def WriteOp.entryAfter (rev : Revision) (k : String) (e : Option KeyValue) : WriteOp →
    Option KeyValue
  | .put key v b =>
    if k = key then
      some { key := k, value := v, createRevision := (e.map (·.createRevision)).getD rev,
             modRevision := rev, version := (e.map (·.version + 1)).getD 1,
             lease := b.target ((e.map (·.lease)).getD 0) }
    else e
  | .delete key => if k = key then none else e

namespace Store

variable {s t : Store} {k : String} {rev : Revision}

@[simp] theorem find?_publish : s.publish.find? k = s.find? k := rfl

/-! ## Writes -/

theorem writeStep_find? {acc : Store × List WatchEvent} {op : WriteOp}
    (h : EntriesSorted acc.1.entries) :
    (writeStep rev acc op).1.find? k = op.entryAfter rev k (acc.1.find? k) := by
  cases op with
  | put key v b =>
    simp only [Store.writeStep, putEntry_find? h, putEntry_snd, WriteOp.entryAfter]
    by_cases hk : k = key
    · subst hk
      simp [leaseOf]
    · simp [hk]
  | delete key =>
    simp only [Store.writeStep, deleteEntry_find?, WriteOp.entryAfter]

theorem foldl_writeStep_find? (rev : Revision) (ops : List WriteOp) :
    ∀ (acc : Store × List WatchEvent), EntriesSorted acc.1.entries →
      (ops.foldl (writeStep rev) acc).1.find? k =
        ops.foldl (WriteOp.entryAfter rev k) (acc.1.find? k) := by
  induction ops with
  | nil => intro acc _; rfl
  | cons op ops ih =>
    intro acc h
    rw [List.foldl_cons, List.foldl_cons, ih _ (EntriesSorted.writeStep h), writeStep_find? h]

/-- Applied writes change each entry one write after another, at the revision after the
store's. -/
theorem applyWrites_find? {ops : List WriteOp} {s' : Store} (h : EntriesSorted s.entries)
    (hok : s.applyWrites ops = .ok s') :
    s'.find? k = ops.foldl (WriteOp.entryAfter (s.revision + 1) k) (s.find? k) := by
  rw [applyWrites_eq] at hok
  split at hok
  · cases hok
  · cases hok
    rw [← foldl_writeStep_find? (s.revision + 1) ops (s, []) h]
    simp

/-- Writes that neither put nor delete `k` leave its entry. -/
theorem foldl_entryAfter_untouched {ops : List WriteOp} (hput : ∀ v b, .put k v b ∉ ops)
    (hdel : .delete k ∉ ops) : ∀ e, ops.foldl (WriteOp.entryAfter rev k) e = e := by
  induction ops with
  | nil => intro e; rfl
  | cons op ops ih =>
    intro e
    rw [List.foldl_cons, ih (fun v b h => hput v b (List.mem_cons_of_mem _ h))
      (fun h => hdel (List.mem_cons_of_mem _ h))]
    cases op with
    | put key v b =>
      have hk : k ≠ key := by
        rintro rfl
        exact hput v b List.mem_cons_self
      simp [WriteOp.entryAfter, hk]
    | delete key =>
      have hk : k ≠ key := by
        rintro rfl
        exact hdel List.mem_cons_self
      simp [WriteOp.entryAfter, hk]

/-- Without a put of `k`, an entry that `k` has after writes it had before them. -/
theorem foldl_entryAfter_of_not_put {ops : List WriteOp} (hput : ∀ v b, .put k v b ∉ ops) :
    ∀ {e₀ : Option KeyValue} {e : KeyValue}, ops.foldl (WriteOp.entryAfter rev k) e₀ = some e →
      e₀ = some e := by
  induction ops with
  | nil => intro e₀ e h; exact h
  | cons op ops ih =>
    intro e₀ e h
    rw [List.foldl_cons] at h
    have before := ih (fun v b h => hput v b (List.mem_cons_of_mem _ h)) h
    -- the first write neither put `k` nor left it deleted
    cases op with
    | put key v b =>
      have hk : k ≠ key := by
        rintro rfl
        exact hput v b List.mem_cons_self
      simpa [WriteOp.entryAfter, hk] using before
    | delete key =>
      simp only [WriteOp.entryAfter] at before
      split at before
      · cases before
      · exact before

/-- Without a delete of `k`, a key with an entry keeps one. -/
theorem foldl_entryAfter_isSome {ops : List WriteOp} (hdel : .delete k ∉ ops) :
    ∀ {e : Option KeyValue}, e.isSome → (ops.foldl (WriteOp.entryAfter rev k) e).isSome := by
  induction ops with
  | nil => intro e he; exact he
  | cons op ops ih =>
    intro e he
    rw [List.foldl_cons]
    apply ih fun h => hdel (List.mem_cons_of_mem _ h)
    cases op with
    | put key v b =>
      simp only [WriteOp.entryAfter]
      split <;> simp [he]
    | delete key =>
      have hk : k ≠ key := by
        rintro rfl
        exact hdel List.mem_cons_self
      simpa [WriteOp.entryAfter, hk] using he

/-! ## Calls -/

/-- A write keeps the revision: only the commit after the writes moves it. -/
theorem writeStep_revision {acc : Store × List WatchEvent} {op : WriteOp} :
    (writeStep rev acc op).1.revision = acc.1.revision := by
  cases op with
  | put key v b =>
    obtain ⟨es, ls, hfr⟩ := (putEntry_frame : ∃ es ls, (acc.1.putEntry rev key v b).1 =
      { acc.1 with entries := es, leases := ls })
    simp only [Store.writeStep, hfr]
  | delete key =>
    simp only [Store.writeStep]
    cases hf : acc.1.find? key with
    | none => rw [deleteEntry_none hf]
    | some e => rw [deleteEntry_some hf]

theorem foldl_writeStep_revision (rev : Revision) (ops : List WriteOp) :
    ∀ (acc : Store × List WatchEvent), (ops.foldl (writeStep rev) acc).1.revision = acc.1.revision := by
  induction ops with
  | nil => intro acc; rfl
  | cons op ops ih =>
    intro acc
    rw [List.foldl_cons, ih, writeStep_revision]

/-- Applied writes move the revision by at most one, and not at all when there are none. -/
theorem applyWrites_revision {ops : List WriteOp} {s' : Store} (hok : s.applyWrites ops = .ok s') :
    s.revision ≤ s'.revision ∧ s'.revision ≤ s.revision + 1 ∧ (ops = [] → s'.revision = s.revision) := by
  rw [applyWrites_eq] at hok
  split at hok
  · cases hok
  · cases hok
    rw [commit_revision, foldl_writeStep_revision]
    refine ⟨?_, ?_, fun hops => ?_⟩
    · split
      · exact le_refl _
      · exact Int.le_add_one (le_refl _)
    · split
      · exact Int.le_add_one (le_refl _)
      · exact le_refl _
    · subst hops
      rfl

/-- What a call did to the store `t` its sweep left, ending in `after`: it applied `ops`, no
writes or those it picks on `t`, one after another at the revision after `t`'s; it moved the
revision by at most one, and not at all when it applied none. -/
structure Applied (c : Call) (t after : Store) (ops : List WriteOp) : Prop where
  picked : ops = [] ∨ ops = c.writesAt t
  find? : ∀ k, after.find? k = ops.foldl (WriteOp.entryAfter (t.revision + 1) k) (t.find? k)
  revision_le : t.revision ≤ after.revision
  le_revision : after.revision ≤ t.revision + 1
  unwritten : ops = [] → after.revision = t.revision

/-- A call that changed neither the entries nor the revision applied no writes. -/
theorem Applied.quiet {c : Call} {after : Store} (he : after.entries = t.entries)
    (hr : after.revision = t.revision) : Applied c t after [] where
  picked := .inl rfl
  find? k := by
    show after.find? k = t.find? k
    simp only [Store.find?, he]
  revision_le := hr.ge
  le_revision := by rw [hr]; exact Int.le_add_one (le_refl _)
  unwritten _ := hr

theorem Applied.written {c : Call} {after : Store} (ht : EntriesSorted t.entries)
    (hok : t.applyWrites (c.writesAt t) = .ok after) : Applied c t after.publish (c.writesAt t) where
  picked := .inr rfl
  find? k := by rw [find?_publish]; exact applyWrites_find? ht hok
  revision_le := (applyWrites_revision hok).1
  le_revision := (applyWrites_revision hok).2.1
  unwritten := (applyWrites_revision hok).2.2

theorem Applied.congr {c : Call} {after after' : Store} {ops : List WriteOp}
    (h : Applied c t after ops) (he : after'.entries = after.entries)
    (hr : after'.revision = after.revision) : Applied c t after' ops where
  picked := h.picked
  find? k := by simp only [Store.find?, he]; exact h.find? k
  revision_le := hr ▸ h.revision_le
  le_revision := hr ▸ h.le_revision
  unwritten hops := hr ▸ h.unwritten hops

/-- A call on a consistent store prunes leased entries, then either writes nothing or applies
its writes on the pruned store, at the revision after it. -/
theorem Call.find_apply (hc : s.Consistent) (c : Call) :
    ∃ t ops, Prunes s t ∧ Applied c t (c.apply s) ops := by
  have pruned := Prunes.expire hc
  -- sending moves neither the entries nor the revision the call prepared
  suffices prepared : ∃ t ops, Prunes s t ∧ Applied c t (c.prepared s) ops by
    obtain ⟨t, ops, hpruned, applied⟩ := prepared
    exact ⟨t, ops, hpruned, applied.congr (c.entries_apply s) (c.revision_apply s)⟩
  -- a call that writes nothing leaves the entries and the revision of a pruning of `s`
  have quiet : ∀ t u, Prunes s t → c.prepared s = u → u.entries = t.entries →
      u.revision = t.revision → ∃ t ops, Prunes s t ∧ Applied c t (c.prepared s) ops :=
    fun t u ht hu he hr => ⟨t, [], ht, Applied.quiet (hu ▸ he) (hu ▸ hr)⟩
  rcases c.prepared_cases s with ⟨now, hp⟩ | ⟨now, hw⟩ | ⟨now, ttl, deadline, hp⟩ |
    ⟨now, id, hp⟩ | ⟨now, id, deadline, hp⟩ | ⟨now, hp⟩ | ⟨rev, hp⟩ | ⟨sub, -, hp⟩ | ⟨sub, -, hp⟩
  · exact quiet _ _ (pruned now) hp rfl rfl
  · have written := Applied.written (c := c) hc.expire.entries_sorted hw
    exact ⟨_, _, pruned now, written.congr rfl rfl⟩
  · exact quiet _ _ (pruned now) hp rfl rfl
  · exact quiet _ _ ((pruned now).trans (Prunes.dropLease hc.expire id)) hp rfl rfl
  · exact quiet _ _ (pruned now) hp rfl rfl
  · exact quiet _ _ (pruned now) hp rfl rfl
  · exact quiet _ _ (Prunes.refl s) hp rfl rfl
  · exact quiet _ _ (Prunes.refl s) hp rfl rfl
  · exact quiet _ _ (Prunes.refl s) hp rfl rfl

theorem Call.revision_le_apply (hc : s.Consistent) (c : Call) :
    s.revision ≤ (c.apply s).revision := by
  obtain ⟨t, ops, pruned, applied⟩ := Call.find_apply hc c
  exact pruned.revision_le.trans applied.revision_le

theorem Reachable.one_le_revision (h : Reachable s) : 1 ≤ s.revision := by
  induction h with
  | make historyLimit channelCapacity => exact le_refl _
  | call c h ih => exact ih.trans (Call.revision_le_apply h.consistent c)

/-- A call that neither puts nor deletes `k` leaves the entry of `k` when no lease holds it. -/
theorem Call.find?_apply_of_untouched (hc : s.Consistent) {c : Call}
    (hput : ∀ t v b, .put k v b ∉ c.writesAt t) (hdel : ∀ t, .delete k ∉ c.writesAt t)
    (hl : ∀ e, s.find? k = some e → e.lease = 0) : (c.apply s).find? k = s.find? k := by
  obtain ⟨t, ops, pruned, applied⟩ := Call.find_apply hc c
  have untouched : ops.foldl (WriteOp.entryAfter (t.revision + 1) k) (t.find? k) = t.find? k := by
    rcases applied.picked with rfl | rfl
    · rfl
    · exact foldl_entryAfter_untouched (hput t) (hdel t) _
  rw [applied.find? k, untouched]
  exact pruned.find?_of_unleased hl

/-- A transaction that answers tells whether its conditions held on the swept store and the
revision it leaves, and applied the branch they picked there. -/
theorem txn_applied (hc : s.Consistent) {now : Nat} {w : ConditionalWrite} {ok : Bool}
    {rev : Revision} (h : (s.txn now w).1 = .ok (ok, rev)) :
    ok = w.conditions.all (s.expire now).holds ∧ rev = (s.txn now w).2.revision ∧
      Applied (.txn now w) (s.expire now) (s.txn now w).2
        ((Call.txn now w).writesAt (s.expire now)) := by
  obtain ⟨t, happ, hpure⟩ := Except.bind_eq_ok (call_ok h)
  obtain ⟨answer, sent⟩ := Prod.mk.inj (Except.ok.inj hpure)
  obtain ⟨rfl, rfl⟩ := Prod.mk.inj answer
  rw [txn, call_snd, ← sent]
  exact ⟨rfl, rfl, Applied.written hc.expire.entries_sorted happ⟩


/-! ## Fresh revisions

Every write is made at the revision after the store's, and no call lowers the revision; so an
entry a key has after any calls is the one it had, or is newer than the store it started from.
A mod revision a key once had never comes back. -/

/-- After writes at revision `rev`, a key's entry is the one it had or was put at `rev`. -/
theorem foldl_entryAfter_fresh {ops : List WriteOp} :
    ∀ {e₀ : Option KeyValue} {e : KeyValue}, ops.foldl (WriteOp.entryAfter rev k) e₀ = some e →
      e₀ = some e ∨ e.modRevision = rev := by
  induction ops with
  | nil => intro e₀ e h; exact .inl h
  | cons op ops ih =>
    intro e₀ e h
    rw [List.foldl_cons] at h
    rcases ih h with before | fresh
    · -- the entry after the first write is `e`: that write kept it or put it
      cases op with
      | put key v b =>
        simp only [WriteOp.entryAfter] at before
        split at before
        · cases before
          exact .inr rfl
        · exact .inl before
      | delete key =>
        simp only [WriteOp.entryAfter] at before
        split at before
        · cases before
        · exact .inl before
    · exact .inr fresh

theorem Consistent.modRevision_le (hc : s.Consistent) {e : KeyValue} (he : s.find? k = some e) :
    e.modRevision ≤ s.revision :=
  (hc.entry_bounds e (find?_key he).2).2.2

/-- An entry after a call was there before it, or was written by it past the store's
revision. -/
theorem Call.find?_apply_fresh (hc : s.Consistent) (c : Call) {e : KeyValue}
    (he : (c.apply s).find? k = some e) : s.find? k = some e ∨ s.revision < e.modRevision := by
  obtain ⟨t, ops, pruned, applied⟩ := Call.find_apply hc c
  rw [applied.find? k] at he
  rcases foldl_entryAfter_fresh he with before | fresh
  · exact .inl (pruned.kept k e before)
  · right
    rw [fresh]
    exact Int.lt_add_one_iff.2 pruned.revision_le

/-- The stores that calls take `s` to, in any number and order. -/
inductive Runs : Store → Store → Prop where
  | refl (s : Store) : Runs s s
  | call {s s' : Store} (c : Call) : Runs s s' → Runs s (c.apply s')

theorem Runs.consistent {s' : Store} (hc : s.Consistent) (h : Runs s s') : s'.Consistent := by
  induction h with
  | refl => exact hc
  | call c _ ih => exact ih.apply c

theorem Runs.revision_le {s' : Store} (hc : s.Consistent) (h : Runs s s') :
    s.revision ≤ s'.revision := by
  induction h with
  | refl => exact le_refl _
  | call c h ih => exact ih.trans (Call.revision_le_apply (h.consistent hc) c)

/-- An entry after a run was there before it, or was written during it past the revision the
run started from. -/
theorem Runs.find?_fresh {s' : Store} (hc : s.Consistent) (h : Runs s s') {e : KeyValue}
    (he : s'.find? k = some e) : s.find? k = some e ∨ s.revision < e.modRevision := by
  induction h generalizing e with
  | refl => exact .inl he
  | call c h ih =>
    rcases Call.find?_apply_fresh (h.consistent hc) c he with before | fresh
    · exact ih before
    · exact .inr ((h.revision_le hc).trans_lt fresh)

/-- Along a run, a key's entry is the one it had, or one with a later mod revision: a mod
revision is never given to a key again, even after a delete and a new create. -/
theorem Runs.modRevision_grows {s' : Store} (hc : s.Consistent) (h : Runs s s')
    {e e' : KeyValue} (he : s.find? k = some e) (he' : s'.find? k = some e') :
    e' = e ∨ e.modRevision < e'.modRevision := by
  rcases h.find?_fresh hc he' with before | fresh
  · rw [he] at before
    cases before
    exact .inl rfl
  · exact .inr ((hc.modRevision_le he).trans_lt fresh)

end Store

end ControlPlane
