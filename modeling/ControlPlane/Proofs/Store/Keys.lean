import ControlPlane.Proofs.Store.Journal

/-!
# What a call does to the keys

Seen from one key, a call does two things. Its sweep, and a revoke, remove entries held by
leases and keep every other entry as it was (`Store.Sweeps`). Then its writes, if it has any and
they apply, change the key one write after another (`WriteOp.heldAfter`), seen as the value and
the lease the key holds (`Store.held`). Every property of keys that a run of calls keeps is
proved from this one description (`Call.held_apply`) and never by unfolding a call.

1. `Store.held`, `WriteOp.heldAfter`: a key's value and lease, and how one write changes them;
   `applyWrites_held` folds them over a list of writes.
2. `Store.Prunes`, `Store.Sweeps`: removals of leased entries, entry by entry and as values and
   leases; the sweep and a revoke are such.
3. `Call.held_apply`: the whole effect of a call, read off what it can do before it sends
   (`Call.prepared_cases`).
-/

namespace ControlPlane

/-- What a key holds after one write, given what it held before, seen as its value and its
lease: a put gives the value with the lease its binding picks, a delete removes the key. -/
def WriteOp.heldAfter (k : String) (held : Option (String × LeaseId)) : WriteOp →
    Option (String × LeaseId)
  | .put key v b => if k = key then some (v, b.target ((held.map (·.2)).getD 0)) else held
  | .delete key => if k = key then none else held

namespace Store

variable {s t : Store} {k : String} {rev : Revision}

/-- What a key holds, seen without its revisions: its value and its lease. -/
def held (s : Store) (k : String) : Option (String × LeaseId) :=
  (s.find? k).map fun kv => (kv.value, kv.lease)

/-! ## Writes -/

theorem EntriesSorted.writeStep {acc : Store × List WatchEvent} {op : WriteOp}
    (h : EntriesSorted acc.1.entries) : EntriesSorted (writeStep rev acc op).1.entries := by
  cases op with
  | put key v b =>
    simp only [Store.writeStep, putEntry_entries]
    exact insertEntry_sorted h
  | delete key =>
    simp only [Store.writeStep]
    cases hf : acc.1.find? key with
    | none => rw [deleteEntry_none hf]; exact h
    | some e => rw [deleteEntry_some hf]; exact filter_sorted h

theorem writeStep_held {acc : Store × List WatchEvent} {op : WriteOp}
    (h : EntriesSorted acc.1.entries) :
    (writeStep rev acc op).1.held k = op.heldAfter k (acc.1.held k) := by
  cases op with
  | put key v b =>
    simp only [Store.writeStep, held, putEntry_find? h, putEntry_snd, WriteOp.heldAfter]
    by_cases hk : k = key
    · subst hk
      simp [leaseOf, Option.map_map, Function.comp_def]
    · simp [hk]
  | delete key =>
    simp only [Store.writeStep, held, deleteEntry_find?, WriteOp.heldAfter]
    split <;> rfl

theorem foldl_writeStep_held (rev : Revision) (ops : List WriteOp) :
    ∀ (acc : Store × List WatchEvent), EntriesSorted acc.1.entries →
      (ops.foldl (writeStep rev) acc).1.held k =
        ops.foldl (WriteOp.heldAfter k) (acc.1.held k) := by
  induction ops with
  | nil => intro acc _; rfl
  | cons op ops ih =>
    intro acc h
    rw [List.foldl_cons, List.foldl_cons, ih _ (EntriesSorted.writeStep h), writeStep_held h]

/-- Applied writes change each key one write after another. -/
theorem applyWrites_held {ops : List WriteOp} {s' : Store} (h : EntriesSorted s.entries)
    (hok : s.applyWrites ops = .ok s') :
    s'.held k = ops.foldl (WriteOp.heldAfter k) (s.held k) := by
  rw [applyWrites_eq] at hok
  split at hok
  · cases hok
  · cases hok
    rw [← foldl_writeStep_held (s.revision + 1) ops (s, []) h]
    simp [held]

/-- What a key holds after writes was held before, or was put by one of them; a put that binds
no lease leaves it unleased. -/
theorem foldl_heldAfter_cases {ops : List WriteOp} :
    ∀ {h : Option (String × LeaseId)} {v : String} {l : LeaseId},
      ops.foldl (WriteOp.heldAfter k) h = some (v, l) →
      h = some (v, l) ∨ ∃ b, WriteOp.put k v b ∈ ops ∧ (b = .detach → l = 0) := by
  induction ops with
  | nil => intro h v l hf; exact .inl hf
  | cons op ops ih =>
    intro h v l hf
    rw [List.foldl_cons] at hf
    rcases ih hf with hop | ⟨b, hb, hl⟩
    · -- the last write on the way decides: the key's old value or this write's
      cases op with
      | put key v' b =>
        simp only [WriteOp.heldAfter] at hop
        split at hop
        · rename_i hk
          subst hk
          cases hop
          exact .inr ⟨b, List.mem_cons_self, fun hb => by subst hb; rfl⟩
        · exact .inl hop
      | delete key =>
        simp only [WriteOp.heldAfter] at hop
        split at hop
        · cases hop
        · exact .inl hop
    · exact .inr ⟨b, List.mem_cons_of_mem _ hb, hl⟩

/-- A key that no write deletes stays present. -/
theorem foldl_heldAfter_isSome {ops : List WriteOp} (hdel : WriteOp.delete k ∉ ops) :
    ∀ {h : Option (String × LeaseId)}, h.isSome →
      (ops.foldl (WriteOp.heldAfter k) h).isSome := by
  induction ops with
  | nil => intro h hs; exact hs
  | cons op ops ih =>
    intro h hs
    rw [List.foldl_cons]
    apply ih fun hm => hdel (List.mem_cons_of_mem _ hm)
    cases op with
    | put key v b =>
      simp only [WriteOp.heldAfter]
      split <;> simp [hs]
    | delete key =>
      simp only [WriteOp.heldAfter]
      split
      · rename_i hk
        subst hk
        exact absurd List.mem_cons_self hdel
      · exact hs

/-! ## Sweeps

A sweep is first described entry by entry (`Prunes`), then seen as the values and leases the
keys hold (`Sweeps`), which is all that most properties of keys read. -/

/-- A change that only removes entries held by leases: each entry it leaves was there as it
is, every entry held by no lease stays, and the revision moves no lower. -/
structure Prunes (s t : Store) : Prop where
  kept : ∀ k e, t.find? k = some e → s.find? k = some e
  unleased : ∀ k e, s.find? k = some e → e.lease = 0 → t.find? k = some e
  revision_le : s.revision ≤ t.revision

theorem Prunes.refl (s : Store) : Prunes s s :=
  ⟨fun _ _ h => h, fun _ _ h _ => h, le_refl _⟩

theorem Prunes.trans {u : Store} (h₁ : Prunes s t) (h₂ : Prunes t u) : Prunes s u :=
  ⟨fun k e h => h₁.kept k e (h₂.kept k e h),
    fun k e h hl => h₂.unleased k e (h₁.unleased k e h hl) hl,
    h₁.revision_le.trans h₂.revision_le⟩

/-- Dropping a lease removes exactly the entries it holds, and commits their deletion; lease 0
is never in the table. -/
theorem Prunes.dropLease (hc : s.Consistent) (id : LeaseId) : Prunes s (s.dropLease id) := by
  by_cases hid : id = 0
  · rw [hid, dropLease_of_none hc.lease?_zero]
    exact Prunes.refl s
  · rw [dropLease_eq hc.toLinked hid]
    have after : ∀ k, (s.dropHeld id).find? k = (s.find? k).filter (·.lease != id) := by
      intro k
      simp only [dropHeld, commit_find?, find?_withoutLease hc.entries_sorted]
    refine ⟨fun k e he => ?_, fun k e he hl => ?_, revision_le_commit (s := s.withoutLease id)⟩
    · rw [after] at he
      exact (Option.filter_eq_some_iff.1 he).1
    · rw [after, he]
      simp [Option.filter, hl, Ne.symm hid]

theorem Prunes.foldl_dropLease (ids : List LeaseId) :
    ∀ {s : Store}, s.Consistent → Prunes s (ids.foldl Store.dropLease s) := by
  induction ids with
  | nil => intro s _; exact Prunes.refl s
  | cons id ids ih =>
    intro s hc
    exact (Prunes.dropLease hc id).trans (ih hc.dropLease)

/-- A key whose entry no lease holds keeps it. -/
theorem Prunes.find?_of_unleased (h : Prunes s t) (hl : ∀ e, s.find? k = some e → e.lease = 0) :
    t.find? k = s.find? k := by
  -- the pruning keeps the entry, held by no lease, and adds none
  cases hs : s.find? k with
  | none =>
    cases ht : t.find? k with
    | none => rfl
    | some e => rw [h.kept k e ht] at hs; cases hs
  | some e => exact h.unleased k e hs (hl e hs)

theorem Prunes.expire (hc : s.Consistent) (now : Nat) : Prunes s (s.expire now) := by
  rw [expire_eq]
  exact Prunes.foldl_dropLease _ hc

/-- A change that only removes keys held by leases, seen as values and leases: each key it
leaves holds what it held, and every key held by no lease stays. -/
structure Sweeps (s t : Store) : Prop where
  kept : ∀ k p, t.held k = some p → s.held k = some p
  unleased : ∀ k v, s.held k = some (v, 0) → t.held k = some (v, 0)

theorem Sweeps.refl (s : Store) : Sweeps s s := ⟨fun _ _ h => h, fun _ _ h => h⟩

theorem Sweeps.trans {u : Store} (h₁ : Sweeps s t) (h₂ : Sweeps t u) : Sweeps s u :=
  ⟨fun k p h => h₁.kept k p (h₂.kept k p h),
    fun k v h => h₂.unleased k v (h₁.unleased k v h)⟩

theorem Prunes.sweeps (h : Prunes s t) : Sweeps s t where
  kept k p hp := by
    obtain ⟨e, he, rfl⟩ := Option.map_eq_some_iff.1 hp
    simp only [held, h.kept k e he, Option.map_some]
  unleased k v hv := by
    obtain ⟨e, he, hev⟩ := Option.map_eq_some_iff.1 hv
    have unleased : e.lease = 0 := (Prod.mk.inj hev).2
    simp only [held, h.unleased k e he unleased, Option.map_some, hev]

theorem Sweeps.dropLease (hc : s.Consistent) (id : LeaseId) : Sweeps s (s.dropLease id) :=
  (Prunes.dropLease hc id).sweeps

theorem Sweeps.expire (hc : s.Consistent) (now : Nat) : Sweeps s (s.expire now) :=
  (Prunes.expire hc now).sweeps

end Store

/-! ## Calls -/

namespace Store

variable {s : Store}

@[simp] theorem held_publish {k : String} : s.publish.held k = s.held k := rfl

/-- A call on a consistent store sweeps leased entries away, then either writes nothing or
applies its writes on the swept store. -/
theorem Call.held_apply (hc : s.Consistent) (c : Call) :
    ∃ t, Sweeps s t ∧ ∃ ops, (ops = [] ∨ ops = c.writesAt t) ∧
      ∀ k, (c.apply s).held k = ops.foldl (WriteOp.heldAfter k) (t.held k) := by
  have swept := Sweeps.expire hc
  -- sending leaves the entries the call prepared
  have sent : ∀ k, (c.apply s).held k = (c.prepared s).held k := fun k => by
    simp only [held, find?, c.entries_apply s]
  -- a call that writes nothing leaves the entries of a sweep of `s`
  have quiet : ∀ t u, Sweeps s t → c.prepared s = u → u.entries = t.entries → ∃ t', Sweeps s t' ∧
      ∃ ops, (ops = [] ∨ ops = c.writesAt t') ∧
        ∀ k, (c.apply s).held k = ops.foldl (WriteOp.heldAfter k) (t'.held k) :=
    fun t u ht hu he => ⟨t, ht, [], .inl rfl, fun k => by
      rw [sent, List.foldl_nil, hu]; simp only [held, find?, he]⟩
  rcases c.prepared_cases s with ⟨now, hp⟩ | ⟨now, hw⟩ | ⟨now, ttl, deadline, hp⟩ |
    ⟨now, id, hp⟩ | ⟨now, id, deadline, hp⟩ | ⟨now, hp⟩ | ⟨rev, hp⟩ | ⟨sub, -, hp⟩ | ⟨sub, -, hp⟩
  · exact quiet _ _ (swept now) hp rfl
  · exact ⟨_, swept now, _, .inr rfl, fun k => by
      rw [sent]; exact applyWrites_held hc.expire.entries_sorted hw⟩
  · exact quiet _ _ (swept now) hp rfl
  · exact quiet _ _ ((swept now).trans (Sweeps.dropLease hc.expire id)) hp rfl
  · exact quiet _ _ (swept now) hp rfl
  · exact quiet _ _ (swept now) hp rfl
  · exact quiet _ _ (Sweeps.refl s) hp rfl
  · exact quiet _ _ (Sweeps.refl s) hp rfl
  · exact quiet _ _ (Sweeps.refl s) hp rfl

/-- What a key holds after a call on a consistent store it held before, or one of the call's
writes put it there; a put binding no lease leaves it unleased. -/
theorem Call.held_apply_cases (hc : s.Consistent) (c : Call) {k v : String} {l : LeaseId}
    (hv : (c.apply s).held k = some (v, l)) :
    s.held k = some (v, l) ∨ ∃ t b, .put k v b ∈ c.writesAt t ∧ (b = .detach → l = 0) := by
  obtain ⟨t, swept, ops, hops, held⟩ := Call.held_apply hc c
  rw [held] at hv
  rcases hops with rfl | rfl
  · exact .inl (swept.kept _ _ hv)
  rcases foldl_heldAfter_cases hv with before | ⟨b, hmem, detached⟩
  · exact .inl (swept.kept _ _ before)
  · exact .inr ⟨t, b, hmem, detached⟩

/-! ## What the reads and the transaction answer -/

theorem get_eq (s : Store) (now : Nat) (key : String) :
    s.get now key = (.ok ((s.expire now).find? key, (s.expire now).revision), (s.expire now).publish) :=
  rfl

theorem read_eq (s : Store) (now : Nat) (r : RangeRequest) :
    s.read now r = (.ok ((s.expire now).range r), (s.expire now).publish) := rfl

/-- A transaction that answers tells whether its conditions held on the swept store, and the
branch it picked is what it wrote. -/
theorem txn_held (hc : s.Consistent) {now : Nat} {w : ConditionalWrite} {ok : Bool}
    {rev : Revision} (h : (s.txn now w).1 = .ok (ok, rev)) :
    ok = w.conditions.all (s.expire now).holds ∧ ∀ k, (s.txn now w).2.held k =
      (if ok then w.onSuccess else w.onFailure).foldl (WriteOp.heldAfter k) ((s.expire now).held k) := by
  obtain ⟨t, happ, hpure⟩ := Except.bind_eq_ok (call_ok h)
  obtain ⟨answer, sent⟩ := Prod.mk.inj (Except.ok.inj hpure)
  obtain ⟨rfl, -⟩ := Prod.mk.inj answer
  refine ⟨rfl, fun k => ?_⟩
  rw [txn, call_snd, held_publish, ← sent]
  exact applyWrites_held hc.expire.entries_sorted happ

theorem get_held {now : Nat} {key : String} {kv : KeyValue} {rev : Revision}
    (h : (s.get now key).1 = .ok (some kv, rev)) : ((s.get now key).2.held key).isSome := by
  rw [get_eq] at h ⊢
  simp only [Except.ok.injEq, Prod.mk.injEq] at h
  rw [held_publish, held, h.1]
  rfl

end Store

end ControlPlane
