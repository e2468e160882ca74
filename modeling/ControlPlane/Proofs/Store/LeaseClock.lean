import ControlPlane.Proofs.Store.AtRest

/-!
# Leases on the clock

A lease lives by the logical clock. A grant or a renewal at moment `T` sets its deadline `ttl`
seconds after `T`, from the lease's own time to live, and a lease with a time to live of 0 or
less has no deadline. Expiry is lazy: nothing happens at the deadline itself, but the sweep at
the start of every call drops the leases whose deadline is at or before the call's moment.

So a lease survives, with its terms, every run of calls made before its deadline that neither
renews nor revokes it: each call's sweep passes it over, and no call's work touches another
lease's terms (`Call.leaseTerms_apply`, one description of what a call does to the lease table).
At any moment at or after the deadline the lease expires (`Store.ExpiresAt`): the sweep drops
it and commits the deletes of all its keys as one batch, before the call's own work, so a
renewal or a revoke of it is refused, and no call at that moment leaves it in the table
(`lease_lifetime_follows_clock`).

1. `leaseTerms`: the number, time to live and deadline of each lease.
2. The sweep: what it keeps, and what it drops in one commit (`expire_commits_lease`).
3. `Call.leaseTerms_apply`, `Call.keeps_lease`, `runCalls_keeps_lease`: calls and runs.
4. `grant_leaseTerms`, `keepAlive_leaseTerms`: the deadlines they set.
5. `ExpiresAt`, `expiresAt_of_due`, `lease_lifetime_follows_clock`.
-/

namespace ControlPlane

namespace Store

variable {s : Store} {now τ : Nat} {id : LeaseId} {ttl : Int} {d : Option Nat}

/-- The terms of each lease of the table: its number, its time to live and its deadline. -/
def leaseTerms (s : Store) : List (LeaseId × Int × Option Nat) :=
  s.leases.map fun l => (l.id, l.ttl, l.deadline)

@[simp] theorem leaseTerms_publish : s.publish.leaseTerms = s.leaseTerms := rfl

/-- Dropping a lease takes it out of the table and leaves the other leases. -/
theorem dropLease_leases (hc : s.Consistent) :
    (s.dropLease id).leases = s.leases.filter (·.id != id) := by
  by_cases hid : id = 0
  · subst hid
    rw [dropLease_of_none hc.lease?_zero]
    -- no lease of the table has the number 0
    refine (List.filter_eq_self.2 fun l hl => ?_).symm
    have pos := (hc.lease_ids l hl).1
    simp only [bne_iff_ne, ne_eq]
    intro zero
    rw [zero] at pos
    exact absurd pos (by decide)
  · rw [dropLease_eq hc.toLinked hid]
    simp [dropHeld, withoutLease]

/-! ## The sweep -/

/-- A lease whose deadline is after `τ` goes through the sweep at `τ` with its terms. -/
theorem leaseTerms_expire_of_before (hc : s.Consistent) (h : (id, ttl, d) ∈ s.leaseTerms)
    (before : ∀ D, d = some D → τ < D) : (id, ttl, d) ∈ (s.expire τ).leaseTerms := by
  obtain ⟨l, hl, same⟩ := List.mem_map.1 h
  simp only [Prod.mk.injEq] at same
  obtain ⟨rfl, rfl, rfl⟩ := same
  have undue : LeaseRecord.isDue τ l = false := by
    unfold LeaseRecord.isDue
    cases hd : l.deadline with
    | none => rfl
    | some D => simpa using before D hd
  exact List.mem_map_of_mem (mem_expire_leases hc hl undue)

theorem mem_dueLeases_of_due {D : Nat} (h : (id, ttl, some D) ∈ s.leaseTerms) (due : D ≤ τ) :
    id ∈ s.dueLeases τ := by
  obtain ⟨l, hl, same⟩ := List.mem_map.1 h
  simp only [Prod.mk.injEq] at same
  obtain ⟨rfl, -, hd⟩ := same
  exact mem_dueLeases.2 ⟨l, hl, by simp [LeaseRecord.isDue, hd, due], rfl⟩

theorem not_mem_expire_of_due (hc : s.Consistent) (h : id ∈ s.dueLeases τ) :
    id ∉ (s.expire τ).leases.map (·.id) := by
  rw [hc.expire_eq_dropHeld, foldl_dropHeld_leases]
  intro hmem
  obtain ⟨l, hl, rfl⟩ := List.mem_map.1 hmem
  have kept := (List.mem_filter.1 hl).2
  simp [h] at kept

theorem find?_expire_of_due (hc : s.Consistent) (h : id ∈ s.dueLeases τ) {k v : String}
    (held : s.held k = some (v, id)) : (s.expire τ).find? k = none := by
  obtain ⟨e, he, same⟩ := Option.map_eq_some_iff.1 held
  have lease : e.lease = id := (Prod.mk.inj same).2
  rw [find?_expire hc, he]
  simp [Option.filter, lease, h]

/-- Dropping leases one after another keeps exactly the entries none of them holds. -/
theorem foldl_dropHeld_entries :
    ∀ (ids : List LeaseId) (s : Store),
      (ids.foldl Store.dropHeld s).entries = s.entries.filter fun e => !ids.contains e.lease
  | [], s => by simp
  | j :: ids, s => by
    rw [List.foldl_cons, foldl_dropHeld_entries ids]
    have dropped : (s.dropHeld j).entries = s.entries.filter (·.lease != j) := by
      simp only [dropHeld, commit_entries, withoutLease]
    rw [dropped, List.filter_filter]
    apply List.filter_congr
    intro e _
    simp only [List.contains_cons, Bool.not_or]
    rw [Bool.and_comm]
    congr 1

/-- Lease drops only add batches to those waiting to be sent. -/
theorem foldl_dropHeld_pending :
    ∀ (ids : List LeaseId) (s : Store), ∃ more, (ids.foldl Store.dropHeld s).pending = s.pending ++ more
  | [], s => ⟨[], by simp⟩
  | j :: ids, s => by
    obtain ⟨more, hmore⟩ := foldl_dropHeld_pending ids (s.dropHeld j)
    rw [List.foldl_cons, hmore, dropHeld, commit_pending]
    split
    · exact ⟨more, rfl⟩
    · refine ⟨⟨s.revision + 1, s.leaseTombstones j (s.revision + 1)⟩ :: more, ?_⟩
      simp [withoutLease]

theorem dueLeases_nodup (hc : s.Consistent) : (s.dueLeases τ).Nodup := by
  unfold dueLeases
  refine (List.mergeSort_perm _ _).nodup_iff.2 ?_
  exact hc.leaseIds_nodup.sublist (List.filter_sublist.map _)

/-- When its time is up, a lease that holds keys is dropped by the sweep in one commit: one
batch of the sweep holds a delete of each key the lease holds, in key order, and nothing
else. -/
theorem expire_commits_lease (hc : s.Consistent) (due : id ∈ s.dueLeases τ)
    (holds : ∃ e ∈ s.entries, e.lease = id) :
    ∃ b ∈ (s.expire τ).pending,
      b.events = (s.entries.filter (·.lease == id)).map fun e => ⟨.delete, tombstone e.key b.revision⟩ := by
  obtain ⟨pre, post, split⟩ := List.append_of_mem due
  have notBefore : id ∉ pre := by
    have nodup := dueLeases_nodup (τ := τ) hc
    rw [split] at nodup
    exact fun hmem => (List.nodup_append.1 nodup).2.2 id hmem id List.mem_cons_self rfl
  rw [hc.expire_eq_dropHeld, split, List.foldl_append, List.foldl_cons]
  -- the drops before it leave the entries the lease holds
  let u := pre.foldl Store.dropHeld s
  have same : u.entries.filter (·.lease == id) = s.entries.filter (·.lease == id) := by
    show (pre.foldl Store.dropHeld s).entries.filter _ = _
    rw [foldl_dropHeld_entries, List.filter_filter]
    apply List.filter_congr
    intro e _
    by_cases he : e.lease = id
    · simp [he, notBefore]
    · simp [he]
  have nonempty : (u.leaseTombstones id (u.revision + 1)).isEmpty = false := by
    obtain ⟨e, he, hl⟩ := holds
    have kept : e ∈ u.entries.filter (·.lease == id) := by
      rw [same]
      exact List.mem_filter.2 ⟨he, by simp [hl]⟩
    simp only [leaseTombstones, List.isEmpty_map, List.isEmpty_eq_false_iff]
    exact List.ne_nil_of_mem kept
  -- its own drop commits the batch, and the drops after it only add batches
  have committed : (u.dropHeld id).pending =
      u.pending ++ [⟨u.revision + 1, u.leaseTombstones id (u.revision + 1)⟩] := by
    rw [dropHeld, commit_pending, nonempty]
    rfl
  obtain ⟨more, hmore⟩ := foldl_dropHeld_pending post (u.dropHeld id)
  refine ⟨⟨u.revision + 1, u.leaseTombstones id (u.revision + 1)⟩, ?_, ?_⟩
  · rw [hmore, committed]
    simp
  · show (u.entries.filter (·.lease == id)).map _ = _
    rw [same]

theorem expire_nextLease (hc : s.Consistent) : (s.expire τ).nextLease = s.nextLease := by
  rw [hc.expire_eq_dropHeld]
  generalize s.dueLeases τ = ids
  induction ids generalizing s with
  | nil => rfl
  | cons j ids ih =>
    rw [List.foldl_cons, ih hc.dropHeld]
    simp [dropHeld, withoutLease]

/-! ## What a call does to the lease table -/

/-- The moment a call is made at. `poll`, `unwatch` and `compact` are not made at a moment:
they do not sweep. -/
def Call.moment? : Call → Option Nat
  | .get now _ | .read now _ | .put now _ _ _ | .delete now _ | .txn now _ | .grant now _
  | .revoke now _ | .keepAlive now _ | .reap now | .watch now _ _ => some now
  | .poll _ | .unwatch _ | .compact _ => none

/-- The store a call does its work on: the sweep at its moment, or the store itself. -/
def Call.swept (c : Call) (s : Store) : Store :=
  match c.moment? with
  | some now => s.expire now
  | none => s

/-- Whether a call renews or revokes lease `id`. -/
def Call.RenewsOrRevokes (id : LeaseId) : Call → Prop
  | .revoke _ j | .keepAlive _ j => j = id
  | _ => False

theorem leaseTerms_call {α : Type} {work : Store → Except StoreError (α × Store)}
    (same : ∀ a t, work (s.expire now) = .ok (a, t) → t.leaseTerms = (s.expire now).leaseTerms) :
    (s.call now work).2.leaseTerms = (s.expire now).leaseTerms := by
  rw [call_snd, leaseTerms_publish]
  generalize hp : s.beforeSend now work = p
  rcases beforeSend_cases hp with rfl | ⟨a, hw⟩
  · rfl
  · exact same a p hw

theorem leaseTerms_writeCall {α : Type} {f : Store → List WriteOp} {g : Store → Store → α} :
    (s.call now fun s => do let s' ← s.applyWrites (f s); pure (g s s', s')).2.leaseTerms =
      (s.expire now).leaseTerms :=
  leaseTerms_call fun _ t hw => by
    obtain ⟨t', happ, hpure⟩ := Except.bind_eq_ok hw
    cases hpure
    exact applyWrites_leases_map _ (fun _ _ => rfl) happ

/-- What a call does to the terms of the lease table, from the store it does its work on:
nothing, or it adds a lease under the next number, or it drops a lease, or it sets the deadline
of a lease. -/
theorem Call.leaseTerms_apply (hc : s.Consistent) (c : Call) :
    (c.apply s).leaseTerms = (c.swept s).leaseTerms ∨
    (∃ now ttl dl, c = .grant now ttl ∧
      (c.apply s).leaseTerms = (c.swept s).leaseTerms ++ [((c.swept s).nextLease, ttl, dl)]) ∨
    (∃ now j, c = .revoke now j ∧
      (c.apply s).leaseTerms = (c.swept s).leaseTerms.filter (·.1 != j)) ∨
    (∃ now j dl, c = .keepAlive now j ∧
      (c.apply s).leaseTerms = (c.swept s).leaseTerms.map fun x => if x.1 = j then (j, x.2.1, dl) else x) := by
  cases c with
  | get now key => exact .inl (leaseTerms_call fun _ _ hw => by cases hw; rfl)
  | read now r => exact .inl (leaseTerms_call fun _ _ hw => by cases hw; rfl)
  | put now key value binding => exact .inl leaseTerms_writeCall
  | delete now key => exact .inl leaseTerms_writeCall
  | txn now w => exact .inl leaseTerms_writeCall
  | reap now => exact .inl (leaseTerms_call fun _ _ hw => by cases hw; rfl)
  | watch now filter start => exact .inl rfl
  | poll sub => exact .inl rfl
  | unwatch sub => exact .inl rfl
  | compact rev => exact .inl rfl
  | grant now ttl =>
    cases hd : leaseDeadline now ttl with
    | error e =>
      -- a refused deadline adds nothing
      refine .inl (leaseTerms_call fun _ t hw => ?_)
      rw [hd] at hw
      cases hw
    | ok dl =>
      refine .inr (.inl ⟨now, ttl, dl, rfl, ?_⟩)
      show (s.grant now ttl).2.leaseTerms = _
      unfold Store.grant Store.call
      simp only [hd, bind, Except.bind, pure, Except.pure, leaseTerms_publish]
      simp [leaseTerms, Call.swept, Call.moment?]
  | revoke now j =>
    by_cases held : (s.expire now).hasLease j = true
    · refine .inr (.inr (.inl ⟨now, j, rfl, ?_⟩))
      show (s.revoke now j).2.leaseTerms = _
      unfold Store.revoke Store.call
      simp only [held, if_true, pure, Except.pure, leaseTerms_publish]
      simp only [leaseTerms, dropLease_leases hc.expire, Call.swept, Call.moment?, List.filter_map]
      rfl
    · refine .inl (leaseTerms_call fun _ _ hw => ?_)
      simp only [held] at hw
      cases hw
  | keepAlive now j =>
    cases found : (s.expire now).leases.find? (·.id == j) with
    | none =>
      refine .inl (leaseTerms_call fun _ _ hw => ?_)
      simp only [found] at hw
      cases hw
    | some l =>
      cases hd : leaseDeadline now l.ttl with
      | error e =>
        refine .inl (leaseTerms_call fun _ _ hw => ?_)
        simp only [found, hd, bind, Except.bind] at hw
        cases hw
      | ok dl =>
        refine .inr (.inr (.inr ⟨now, j, dl, rfl, ?_⟩))
        show (s.keepAlive now j).2.leaseTerms = _
        unfold Store.keepAlive Store.call
        simp only [found, hd, bind, Except.bind, pure, Except.pure, leaseTerms_publish]
        simp only [leaseTerms, mapLease, List.map_map, Call.swept, Call.moment?]
        apply List.map_congr_left
        intro l' _
        by_cases hj : l'.id = j <;> simp [hj]

/-- A call keeps the terms of every lease of the store it works on, but the one it renews or
revokes. -/
theorem Call.leaseTerms_kept (hc : s.Consistent) (c : Call) {x : LeaseId × Int × Option Nat}
    (hx : x ∈ (c.swept s).leaseTerms) (own : ¬ c.RenewsOrRevokes x.1) :
    x ∈ (c.apply s).leaseTerms := by
  rcases c.leaseTerms_apply hc with same | ⟨now, ttl, dl, -, added⟩ | ⟨now, j, rfl, dropped⟩ |
    ⟨now, j, dl, rfl, renewed⟩
  · rwa [same]
  · rw [added]
    exact List.mem_append_left _ hx
  · -- another lease was dropped
    have other : x.1 ≠ j := fun hj => own hj.symm
    rw [dropped]
    exact List.mem_filter.2 ⟨hx, by simpa using other⟩
  · have other : x.1 ≠ j := fun hj => own hj.symm
    rw [renewed]
    exact List.mem_map.2 ⟨x, hx, by simp [other]⟩

/-- The leases after a call are those of the store it works on, and perhaps one under that
store's next number. -/
theorem Call.leaseIds_apply (hc : s.Consistent) (c : Call) {j : LeaseId}
    (hj : j ∈ (c.apply s).leaseTerms.map (·.1)) :
    j ∈ (c.swept s).leaseTerms.map (·.1) ∨ j = (c.swept s).nextLease := by
  obtain ⟨x, hx, rfl⟩ := List.mem_map.1 hj
  rcases c.leaseTerms_apply hc with same | ⟨now, ttl, dl, -, added⟩ | ⟨now, i, -, dropped⟩ |
    ⟨now, i, dl, -, renewed⟩
  · rw [same] at hx
    exact .inl (List.mem_map_of_mem hx)
  · rw [added, List.mem_append, List.mem_singleton] at hx
    rcases hx with hx | rfl
    · exact .inl (List.mem_map_of_mem hx)
    · exact .inr rfl
  · rw [dropped] at hx
    exact .inl (List.mem_map_of_mem (List.mem_filter.1 hx).1)
  · rw [renewed] at hx
    obtain ⟨y, hy, rfl⟩ := List.mem_map.1 hx
    -- a renewal keeps the number
    have sameId : (if y.1 = i then (i, y.2.1, dl) else y).1 = y.1 := by split_ifs with h <;> simp [h]
    rw [sameId]
    exact .inl (List.mem_map_of_mem hy)

/-- One call keeps a lease with its terms when it neither renews nor revokes it and is made
before its deadline. -/
theorem Call.keeps_lease (hc : s.Consistent) (c : Call) (h : (id, ttl, d) ∈ s.leaseTerms)
    (own : ¬ c.RenewsOrRevokes id) (before : ∀ τ, c.moment? = some τ → ∀ D, d = some D → τ < D) :
    (id, ttl, d) ∈ (c.apply s).leaseTerms := by
  have swept : (id, ttl, d) ∈ (c.swept s).leaseTerms := by
    unfold Call.swept
    cases hm : c.moment? with
    | none => exact h
    | some τ => exact leaseTerms_expire_of_before hc h (before τ hm)
  exact c.leaseTerms_kept hc swept own

/-- The store after calls, one after another. -/
def runCalls (s : Store) (cs : List Call) : Store := cs.foldl (fun s c => c.apply s) s

/-- A run of calls keeps a lease with its terms when none of them renews or revokes it and
each is made before its deadline. -/
theorem runCalls_keeps_lease :
    ∀ (cs : List Call) {s : Store}, s.Consistent → (id, ttl, d) ∈ s.leaseTerms →
      (∀ c ∈ cs, ¬ c.RenewsOrRevokes id) →
      (∀ c ∈ cs, ∀ τ, c.moment? = some τ → ∀ D, d = some D → τ < D) →
      (runCalls s cs).Consistent ∧ (id, ttl, d) ∈ (runCalls s cs).leaseTerms
  | [], _, hc, h, _, _ => ⟨hc, h⟩
  | c :: cs, _, hc, h, own, before =>
    runCalls_keeps_lease cs (hc.apply c)
      (c.keeps_lease hc h (own c List.mem_cons_self) (before c List.mem_cons_self))
      (fun c' hc' => own c' (List.mem_cons_of_mem _ hc'))
      (fun c' hc' => before c' (List.mem_cons_of_mem _ hc'))

/-! ## Deadlines -/

/-- The deadline a time to live sets at moment `T`: `ttl` seconds later on the millisecond
clock, and none when `ttl` is not positive. -/
def deadlineAfter (T : Nat) (ttl : Int) : Option Nat :=
  if ttl ≤ 0 then none else some (T + ttl.toNat * 1000)

theorem leaseDeadline_ok {T : Nat} {dl : Option Nat} (h : leaseDeadline T ttl = .ok dl) :
    dl = deadlineAfter T ttl := by
  unfold leaseDeadline at h
  unfold deadlineAfter
  split at h
  · cases h
    rw [if_pos ‹_›]
  · split at h
    · cases h
    · cases h
      rw [if_neg ‹_›]

/-- A grant that answers lists its lease with the time to live asked for and the deadline it
sets from the moment of the grant. -/
theorem grant_leaseTerms {T : Nat} {g : LeaseGrant} (h : (s.grant T ttl).1 = .ok g) :
    g.ttl = ttl ∧ (g.id, ttl, deadlineAfter T ttl) ∈ (s.grant T ttl).2.leaseTerms := by
  obtain ⟨rfl, dl, hd, leases⟩ := grant_ok h
  refine ⟨rfl, ?_⟩
  rw [← leaseDeadline_ok hd, leaseTerms, leases]
  exact List.mem_map.2 ⟨_, List.mem_append_right _ (List.mem_singleton_self _), rfl⟩

/-- A renewal that answers gives the lease's own time to live and sets the deadline it gives
from the moment of the renewal. -/
theorem keepAlive_leaseTerms (hc : s.Consistent) {T : Nat} {r : Int} (h : (id, ttl, d) ∈ s.leaseTerms)
    (hok : (s.keepAlive T id).1 = .ok r) :
    r = ttl ∧ (id, ttl, deadlineAfter T ttl) ∈ (s.keepAlive T id).2.leaseTerms := by
  obtain ⟨l₀, hl₀, same⟩ := List.mem_map.1 h
  simp only [Prod.mk.injEq] at same
  obtain ⟨rfl, rfl, -⟩ := same
  obtain ⟨l, swept, sameId, rfl, dl, hd, renewed⟩ := keepAlive_ok hok
  -- the lease renewed is the one listed: the sweep only removes leases, and numbers are unique
  have inTable : l ∈ s.leases := by
    rw [hc.expire_eq_dropHeld, foldl_dropHeld_leases] at swept
    exact (List.mem_filter.1 swept).1
  obtain rfl : l = l₀ := hc.lease_eq_of_id inTable hl₀ sameId
  refine ⟨rfl, ?_⟩
  rw [← leaseDeadline_ok hd]
  exact List.mem_map.2 ⟨_, renewed, rfl⟩

/-! ## Expiry -/

/-- What the calls at moment `τ` find of lease `id` on `s`: the sweep drops it, deletes the keys
it holds with one batch of deletes, before any call's own work, so that a renewal and a revoke
of it are refused and no call at `τ` leaves it in the table. -/
structure ExpiresAt (s : Store) (id : LeaseId) (τ : Nat) : Prop where
  due : id ∈ s.dueLeases τ
  keysDeleted : ∀ k v, s.held k = some (v, id) → (s.expire τ).find? k = none
  oneRevision : (∃ e ∈ s.entries, e.lease = id) →
    ∃ b ∈ (s.expire τ).pending,
      b.events = (s.entries.filter (·.lease == id)).map fun e => ⟨.delete, tombstone e.key b.revision⟩
  renewRefused : (s.keepAlive τ id).1 = .error (StoreError.leaseNotFound id)
  revokeRefused : (s.revoke τ id).1 = .error (StoreError.leaseNotFound id)
  gone : ∀ c : Call, c.moment? = some τ → id ∉ (c.apply s).leaseTerms.map (·.1)

/-- A lease whose deadline is at or before `τ` expires at `τ`. -/
theorem expiresAt_of_due (hc : s.Consistent) {D : Nat} (h : (id, ttl, some D) ∈ s.leaseTerms)
    (late : D ≤ τ) : s.ExpiresAt id τ := by
  have due : id ∈ s.dueLeases τ := mem_dueLeases_of_due h late
  have dropped : id ∉ (s.expire τ).leases.map (·.id) := not_mem_expire_of_due hc due
  refine ⟨due, fun k v held => find?_expire_of_due hc due held, expire_commits_lease hc due, ?_,
    ?_, fun c hm => ?_⟩
  · -- the renewal looks the lease up after the sweep
    have missing : (s.expire τ).leases.find? (·.id == id) = none :=
      List.find?_eq_none.2 fun l hl same => dropped (List.mem_map.2 ⟨l, hl, by simpa using same⟩)
    unfold Store.keepAlive Store.call
    simp only [missing]
    rfl
  · have missing : (s.expire τ).hasLease id = false := by
      rw [Bool.eq_false_iff, ne_eq, hasLease, List.any_eq_true]
      rintro ⟨l, hl, same⟩
      exact dropped (List.mem_map.2 ⟨l, hl, by simpa using same⟩)
    unfold Store.revoke Store.call
    simp only [missing]
    rfl
  · -- no call gives its number again: it is below the next number
    have swept : c.swept s = s.expire τ := by unfold Call.swept; rw [hm]
    intro back
    rcases c.leaseIds_apply hc back with kept | fresh
    · rw [swept, leaseTerms, List.map_map] at kept
      exact dropped kept
    · obtain ⟨l, hl, same⟩ := List.mem_map.1 h
      have below := (hc.lease_ids l hl).2
      simp only [Prod.mk.injEq] at same
      rw [swept, expire_nextLease hc, ← same.1] at fresh
      exact absurd fresh (ne_of_lt below)

/-! ## Leases on the clock -/

/-- Lease lifetime follows the logical clock. A grant at moment `T` lists its lease with the time
to live asked for, and a renewal at `T` answers the lease's own time to live; both set the
deadline `ttl` seconds after `T`, and none when `ttl` is not positive. On a reachable store, a
lease survives with its terms every run of calls that neither renews nor revokes it and is made
before its deadline; at every moment at or after the deadline the lease expires: the sweep of
any call drops it and deletes the keys it holds in one revision, before the call's own work, and
a renewal or a revoke of it is refused. A lease without a deadline survives every such run, at
every moment. -/
theorem lease_lifetime_follows_clock :
    (∀ (s : Store) (T : Nat) (ttl : Int) (g : LeaseGrant), (s.grant T ttl).1 = .ok g →
      g.ttl = ttl ∧ (g.id, ttl, deadlineAfter T ttl) ∈ (s.grant T ttl).2.leaseTerms) ∧
    (∀ s : Store, Reachable s → ∀ (T : Nat) (id : LeaseId) (ttl : Int) (d : Option Nat) (r : Int),
      (id, ttl, d) ∈ s.leaseTerms → (s.keepAlive T id).1 = .ok r →
        r = ttl ∧ (id, ttl, deadlineAfter T ttl) ∈ (s.keepAlive T id).2.leaseTerms) ∧
    (∀ s : Store, Reachable s → ∀ (id : LeaseId) (ttl : Int) (d : Option Nat),
      (id, ttl, d) ∈ s.leaseTerms → ∀ cs : List Call, (∀ c ∈ cs, ¬ c.RenewsOrRevokes id) →
      (∀ c ∈ cs, ∀ τ, c.moment? = some τ → ∀ D, d = some D → τ < D) →
        (id, ttl, d) ∈ (runCalls s cs).leaseTerms ∧
        ∀ D τ, d = some D → D ≤ τ → (runCalls s cs).ExpiresAt id τ) ∧
    (∀ s : Store, Reachable s → ∀ (id : LeaseId) (ttl : Int),
      (id, ttl, none) ∈ s.leaseTerms → ∀ cs : List Call, (∀ c ∈ cs, ¬ c.RenewsOrRevokes id) →
        (id, ttl, none) ∈ (runCalls s cs).leaseTerms) := by
  refine ⟨fun s T ttl g h => grant_leaseTerms h,
    fun s hs T id ttl d r h hok => keepAlive_leaseTerms hs.consistent h hok,
    fun s hs id ttl d h cs own before => ?_, fun s hs id ttl h cs own => ?_⟩
  · obtain ⟨hc, kept⟩ := runCalls_keeps_lease cs hs.consistent h own before
    refine ⟨kept, fun D τ hd late => ?_⟩
    subst hd
    exact expiresAt_of_due hc kept late
  · -- no moment is past a deadline that does not exist
    exact (runCalls_keeps_lease cs hs.consistent h own fun _ _ _ _ _ hd => nomatch hd).2

/-- A lease granted at 0 for 10 s, put under at 4 s, with another lease's renewal at 8 s and a
read at 9.999 s: it is still there, and it expires at 10 s. -/
theorem ten_second_lease_expires_at_ten :
    let s := (Call.grant 0 10).apply (Store.make 4 4)
    let cs := [Call.put 4000 "/n/1" "a" (.attach 1), Call.keepAlive 8000 2, Call.get 9999 "/n/1"]
    Reachable s ∧ (1, 10, some 10000) ∈ s.leaseTerms ∧ (∀ c ∈ cs, ¬ c.RenewsOrRevokes 1) ∧
      (∀ c ∈ cs, ∀ τ, c.moment? = some τ → ∀ D, some 10000 = some D → τ < D) ∧
      (1, 10, some 10000) ∈ (runCalls s cs).leaseTerms ∧ (runCalls s cs).ExpiresAt 1 10000 := by
  intro s cs
  have hs : Reachable s := .call _ (.make 4 4)
  have terms : (1, 10, some 10000) ∈ s.leaseTerms := by decide +kernel
  have own : ∀ c ∈ cs, ¬ c.RenewsOrRevokes 1 := by
    simp [cs, Call.RenewsOrRevokes]
  have before : ∀ c ∈ cs, ∀ τ, c.moment? = some τ → ∀ D, some 10000 = some D → τ < D := by
    simp [cs, Call.moment?]
  obtain ⟨kept, expires⟩ := lease_lifetime_follows_clock.2.2.1 s hs 1 10 _ terms cs own before
  exact ⟨hs, terms, own, before, kept, expires 10000 10000 rfl le_rfl⟩

end Store

end ControlPlane
