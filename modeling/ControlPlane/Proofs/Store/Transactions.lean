import ControlPlane.Proofs.Store.Entries
import ControlPlane.Proofs.Store.LeaseLife

/-!
# Transactions are atomic

A transaction tests all its conditions on one state, the store as its call's sweep left it, and
picks its branch from them. Then either every lease the branch attaches is in the table, and the
branch's writes are applied in order at the one revision after that state's, every change stamped
with it, and nothing is committed when no write changes a key; or some lease is missing, and the
transaction fails with `not-found` before it writes anything (`txn_atomic`).

A write changes no key exactly when it deletes a key the store does not hold (`WriteOp.Idle`):
a put always changes its key, at least its version. Since such a delete leaves the store as it
was, the writes of a branch commit nothing exactly when each of them is idle on the state the
branch starts from (`foldl_writeStep_events_nil_iff`).

1. `holds_of_missing`: how conditions read a key the store does not hold.
2. `WriteOp.Idle` and the writes that commit nothing.
3. A branch applies at the next revision when its leases are all there
   (`applyWrites_of_present`, `Written.commit_history`), and is refused otherwise
   (`applyWrites_of_missing`).
4. `txn_eq`, `txn_atomic`.
-/

namespace ControlPlane

namespace Store

variable {s t u : Store} {rev : Revision}

/-- On a key the store does not hold, the value tests and the presence test fail, and the mod
revision and the lease read as 0. -/
theorem holds_of_missing {k : String} (h : s.find? k = none) (v : String) (r : Revision)
    (l : LeaseId) :
    s.holds (.valueEquals k v) = false ∧ s.holds (.valueNotEquals k v) = false ∧
      s.holds (.present k) = false ∧ s.holds (.modRevisionEquals k r) = (0 == r) ∧
      s.holds (.leaseEquals k l) = (0 == l) := by
  simp [holds, h]

/-! ## Writes that change nothing -/

/-- A write that changes no key of `s`: a delete of a key `s` does not hold. -/
def WriteOp.Idle (s : Store) : WriteOp → Prop
  | .put .. => False
  | .delete k => s.find? k = none

/-- The writes of a branch add no event exactly when none was there before and each write is
idle on the state they start from; idle writes leave that state as it is. -/
theorem foldl_writeStep_events_nil_iff :
    ∀ (ops : List WriteOp) (u : Store) (evs : List WatchEvent),
      (ops.foldl (writeStep rev) (u, evs)).2 = [] ↔ evs = [] ∧ ∀ op ∈ ops, WriteOp.Idle u op
  | [], u, evs => by simp
  | .put k v b :: ops, u, evs => by
    -- a put adds its event, which no later write takes back
    rw [List.foldl_cons, writeStep, foldl_writeStep_events_nil_iff ops]
    simp [WriteOp.Idle]
  | .delete k :: ops, u, evs => by
    rw [List.foldl_cons, writeStep]
    cases hk : u.find? k with
    | none =>
      -- deleting a missing key leaves the store and the events as they were
      rw [deleteEntry_none hk]
      simp only [Option.toList_none, List.append_nil]
      rw [foldl_writeStep_events_nil_iff ops]
      simp [WriteOp.Idle, hk]
    | some e =>
      rw [deleteEntry_some hk, foldl_writeStep_events_nil_iff ops]
      simp [WriteOp.Idle, hk]

theorem foldl_writeStep_idle :
    ∀ (ops : List WriteOp) (evs : List WatchEvent), (∀ op ∈ ops, WriteOp.Idle u op) →
      ops.foldl (writeStep rev) (u, evs) = (u, evs)
  | [], _, _ => rfl
  | .put .. :: _, _, idle => absurd (idle _ List.mem_cons_self) id
  | .delete k :: ops, evs, idle => by
    have hk : u.find? k = none := idle _ List.mem_cons_self
    rw [List.foldl_cons, writeStep]
    simp only [deleteEntry_none hk, Option.toList_none, List.append_nil]
    exact foldl_writeStep_idle ops evs fun op hop => idle op (List.mem_cons_of_mem _ hop)

/-- A commit of some events moves the revision and appends their batch to the history, which
drops its oldest batches past the limit. -/
theorem commit_of_ne_nil (rev : Revision) {evs : List WatchEvent} (h : evs ≠ []) :
    (s.commit rev evs).revision = rev ∧
      (s.commit rev evs).history = (s.history ++ [(⟨rev, evs⟩ : Batch)]).drop
        ((s.history ++ [(⟨rev, evs⟩ : Batch)]).length - s.historyLimit) := by
  have nonempty : evs.isEmpty = false := List.isEmpty_eq_false_iff.2 h
  unfold commit
  rw [if_neg (by rw [nonempty]; exact Bool.false_ne_true)]
  exact ⟨rfl, rfl⟩

/-! ## Missing leases -/

/-- The lease a transaction finds missing is one that a put of its writes attaches. -/
theorem missingLease?_eq_some {ops : List WriteOp} {id : LeaseId} (h : s.missingLease? ops = some id) :
    (∃ k v, .put k v (.attach id) ∈ ops) ∧ s.hasLease id = false := by
  obtain ⟨op, hop, hsome⟩ := List.exists_of_findSome?_eq_some h
  cases op with
  | put k v b =>
    cases b with
    | attach j =>
      simp only at hsome
      split at hsome
      · cases hsome
      · rename_i missing
        cases hsome
        exact ⟨⟨k, v, hop⟩, Bool.eq_false_iff.2 missing⟩
    | keep => cases hsome
    | detach => cases hsome
  | delete k => cases hsome

/-! ## A branch applied or refused -/

/-- A branch whose attached leases are all in the table applies: its writes run in order at the
next revision, writing only entries and leases, and then one commit. -/
theorem applyWrites_of_present (hc : t.Consistent) {ops : List WriteOp}
    (present : ∀ k v id, .put k v (.attach id) ∈ ops → t.hasLease id = true) :
    t.applyWrites ops = .ok ((ops.foldl (writeStep (t.revision + 1)) (t, [])).1.commit
        (t.revision + 1) (ops.foldl (writeStep (t.revision + 1)) (t, [])).2) ∧
      Written t (t.revision + 1) (ops.foldl (writeStep (t.revision + 1)) (t, [])) := by
  have none : t.missingLease? ops = none := missingLease?_eq_none present
  have bounded : ∀ k e, t.find? k = some e →
      1 ≤ e.version ∧ e.createRevision ≤ e.modRevision ∧ e.modRevision ≤ t.revision :=
    fun k e he => hc.entry_bounds e (find?_key he).2
  refine ⟨by rw [applyWrites_eq, none], ?_⟩
  exact (Written.start hc.toLinked (Int.lt_add_one_iff.2 (le_refl _)) bounded).foldl
    fun op hop k v id hput => lease?_of_missingLease? none op hop k v id hput

/-- Writes that changed a key commit one batch at their revision onto the history of the state
they started from: they wrote only entries and leases. -/
theorem Written.commit_history {acc : Store × List WatchEvent} (written : Written t rev acc)
    (events : acc.2 ≠ []) :
    (acc.1.commit rev acc.2).revision = rev ∧
      (acc.1.commit rev acc.2).history = (t.history ++ [(⟨rev, acc.2⟩ : Batch)]).drop
        ((t.history ++ [(⟨rev, acc.2⟩ : Batch)]).length - t.historyLimit) := by
  obtain ⟨es, ls, frame⟩ := written.frame
  have history : acc.1.history = t.history := by rw [frame]
  have limit : acc.1.historyLimit = t.historyLimit := by rw [frame]
  obtain ⟨moved, appended⟩ := commit_of_ne_nil (s := acc.1) rev events
  rw [history, limit] at appended
  exact ⟨moved, appended⟩

/-- A branch that attaches a lease missing from the table is refused, for a lease it attaches
that is missing. -/
theorem applyWrites_of_missing {ops : List WriteOp}
    (missing : ∃ k v id, .put k v (.attach id) ∈ ops ∧ t.hasLease id = false) :
    ∃ id, t.applyWrites ops = .error (StoreError.leaseNotFound id) ∧
      (∃ k v, .put k v (.attach id) ∈ ops) ∧ t.hasLease id = false := by
  obtain ⟨k, v, id, hput, hmissing⟩ := missing
  -- the first missing lease the check meets is the one refused
  obtain ⟨id', found⟩ : ∃ id', t.missingLease? ops = some id' := by
    refine Option.ne_none_iff_exists'.1 fun hnone => ?_
    have := lease?_of_missingLease? hnone _ hput k v id rfl
    rw [← hasLease_iff, hmissing] at this
    cases this
  refine ⟨id', by rw [applyWrites_eq, found], missingLease?_eq_some found⟩

/-! ## The transaction -/

/-- A transaction sweeps, tests its conditions on the swept store, and applies the branch they
pick there; a failed branch leaves the swept store. -/
theorem txn_eq (now : Nat) (w : ConditionalWrite) :
    s.txn now w =
      let ok := w.conditions.all (s.expire now).holds
      match (s.expire now).applyWrites (if ok then w.onSuccess else w.onFailure) with
      | .ok u => (.ok (ok, u.revision), u.publish)
      | .error e => (.error e, (s.expire now).publish) := by
  unfold txn call
  dsimp only
  cases (s.expire now).applyWrites _ <;> rfl

/-- A transaction is atomic. Its conditions are tested on one state, the store `t` its sweep
leaves, where a key the store does not hold fails the value and presence tests and reads 0 as
mod revision and lease; they pick the branch `ops`. When every lease the branch attaches is in
`t`'s table, the transaction answers whether the conditions held with the revision it leaves,
and each key ends as the branch's writes, applied in order at revision `t.revision + 1`, make
it. A branch that changes no key (each write deletes a key `t` lacks) leaves the entries,
leases, revision and history of `t`; any other commits one batch at `t.revision + 1`, every
event stamped with it, appended to `t`'s history. When the branch attaches a lease that is not
in the table, the transaction fails with `not-found` for such a lease and leaves the entries,
leases, revision and history of `t`. -/
theorem txn_atomic {s : Store} (hs : Reachable s) (now : Nat) (w : ConditionalWrite) :
    let t := s.expire now
    let ok := w.conditions.all t.holds
    let ops := if ok then w.onSuccess else w.onFailure
    let s' := (s.txn now w).2
    (∀ k, t.find? k = none → ∀ v r l,
      t.holds (.valueEquals k v) = false ∧ t.holds (.valueNotEquals k v) = false ∧
      t.holds (.present k) = false ∧ t.holds (.modRevisionEquals k r) = (0 == r) ∧
      t.holds (.leaseEquals k l) = (0 == l)) ∧
    ((∀ k v id, .put k v (.attach id) ∈ ops → t.hasLease id = true) →
      (s.txn now w).1 = .ok (ok, s'.revision) ∧
      (∀ k, s'.find? k = ops.foldl (WriteOp.entryAfter (t.revision + 1) k) (t.find? k)) ∧
      ((∀ op ∈ ops, WriteOp.Idle t op) →
        s'.entries = t.entries ∧ s'.leases = t.leases ∧ s'.revision = t.revision ∧
          s'.history = t.history) ∧
      ((∃ op ∈ ops, ¬ WriteOp.Idle t op) →
        s'.revision = t.revision + 1 ∧
        ∃ evs : List WatchEvent, evs ≠ [] ∧ (∀ ev ∈ evs, ev.kv.modRevision = t.revision + 1) ∧
          s'.history = (t.history ++ [(⟨t.revision + 1, evs⟩ : Batch)]).drop
            ((t.history ++ [(⟨t.revision + 1, evs⟩ : Batch)]).length - t.historyLimit))) ∧
    ((∃ k v id, .put k v (.attach id) ∈ ops ∧ t.hasLease id = false) →
      ∃ id, (s.txn now w).1 = .error (StoreError.leaseNotFound id) ∧
        (∃ k v, .put k v (.attach id) ∈ ops) ∧ t.hasLease id = false ∧
        s'.entries = t.entries ∧ s'.leases = t.leases ∧ s'.revision = t.revision ∧
        s'.history = t.history) := by
  intro t ok ops s'
  have hc : t.Consistent := hs.consistent.expire
  have run : s.txn now w = match t.applyWrites ops with
      | .ok u => (.ok (ok, u.revision), u.publish)
      | .error e => (.error e, t.publish) := txn_eq now w
  refine ⟨fun k hk v r l => holds_of_missing hk v r l, fun present => ?_, fun missing => ?_⟩
  · -- every lease the branch attaches is there: its writes apply, then one commit
    let acc := ops.foldl (writeStep (t.revision + 1)) (t, [])
    obtain ⟨applied, written⟩ := applyWrites_of_present hc present
    have answer : s.txn now w = (.ok (ok, (acc.1.commit (t.revision + 1) acc.2).revision),
        (acc.1.commit (t.revision + 1) acc.2).publish) := by
      rw [run, applied]
    have after : s' = (acc.1.commit (t.revision + 1) acc.2).publish := by
      show (s.txn now w).2 = _
      rw [answer]
    refine ⟨by rw [answer, after]; rfl, fun k => ?_, fun idle => ?_, fun ⟨op, hop, busy⟩ => ?_⟩
    · rw [after, find?_publish]
      exact applyWrites_find? hc.entries_sorted applied
    · -- idle writes leave `t` and commit nothing
      have unchanged : acc = (t, []) := foldl_writeStep_idle ops [] idle
      rw [after, unchanged]
      exact ⟨rfl, rfl, rfl, rfl⟩
    · -- a write that changes a key leaves an event, so the commit happens
      have events : acc.2 ≠ [] := fun hnil =>
        busy (((foldl_writeStep_events_nil_iff ops t []).1 hnil).2 op hop)
      obtain ⟨moved, appended⟩ := written.commit_history events
      rw [after]
      exact ⟨moved, acc.2, events, written.stamped, appended⟩
  · -- a lease is missing: the writes are refused and the swept store stays
    obtain ⟨id, refused, attached, notHeld⟩ := applyWrites_of_missing missing
    have answer : s.txn now w = (.error (StoreError.leaseNotFound id), t.publish) := by
      rw [run, refused]
    refine ⟨id, by rw [answer], attached, notHeld, ?_⟩
    show (s.txn now w).2.entries = t.entries ∧ (s.txn now w).2.leases = t.leases ∧
      (s.txn now w).2.revision = t.revision ∧ (s.txn now w).2.history = t.history
    rw [answer]
    exact ⟨rfl, rfl, rfl, rfl⟩

/-- A transaction on a store with lease 1, whose condition fails on a missing key, so its
other branch puts a key under lease 1 and deletes a key the store lacks. -/
theorem txn_failed_condition_puts_under_lease :
    let s := (Call.grant 0 10).apply (Store.make 4 4)
    let w : ConditionalWrite := ⟨[.present "/a"], [], [.put "/a" "1" (.attach 1), .delete "/gone"]⟩
    Reachable s ∧
    let t := s.expire 0
    let ok := w.conditions.all t.holds
    let ops := if ok then w.onSuccess else w.onFailure
    let s' := (s.txn 0 w).2
    (∀ k, t.find? k = none → ∀ v r l,
      t.holds (.valueEquals k v) = false ∧ t.holds (.valueNotEquals k v) = false ∧
      t.holds (.present k) = false ∧ t.holds (.modRevisionEquals k r) = (0 == r) ∧
      t.holds (.leaseEquals k l) = (0 == l)) ∧
    ((∀ k v id, .put k v (.attach id) ∈ ops → t.hasLease id = true) →
      (s.txn 0 w).1 = .ok (ok, s'.revision) ∧
      (∀ k, s'.find? k = ops.foldl (WriteOp.entryAfter (t.revision + 1) k) (t.find? k)) ∧
      ((∀ op ∈ ops, WriteOp.Idle t op) →
        s'.entries = t.entries ∧ s'.leases = t.leases ∧ s'.revision = t.revision ∧
          s'.history = t.history) ∧
      ((∃ op ∈ ops, ¬ WriteOp.Idle t op) →
        s'.revision = t.revision + 1 ∧
        ∃ evs : List WatchEvent, evs ≠ [] ∧ (∀ ev ∈ evs, ev.kv.modRevision = t.revision + 1) ∧
          s'.history = (t.history ++ [(⟨t.revision + 1, evs⟩ : Batch)]).drop
            ((t.history ++ [(⟨t.revision + 1, evs⟩ : Batch)]).length - t.historyLimit))) ∧
    ((∃ k v id, .put k v (.attach id) ∈ ops ∧ t.hasLease id = false) →
      ∃ id, (s.txn 0 w).1 = .error (StoreError.leaseNotFound id) ∧
        (∃ k v, .put k v (.attach id) ∈ ops) ∧ t.hasLease id = false ∧
        s'.entries = t.entries ∧ s'.leases = t.leases ∧ s'.revision = t.revision ∧
        s'.history = t.history) :=
  have hs : Reachable ((Call.grant 0 10).apply (Store.make 4 4)) := .call _ (.make 4 4)
  ⟨hs, txn_atomic hs 0 _⟩

example : (((Call.grant 0 10).apply (Store.make 4 4)).txn 0
    ⟨[], [.put "/a" "1" (.attach 1), .put "/b" "2" (.attach 7)], []⟩).2.entries = [] := by
  decide +kernel

end Store

end ControlPlane
