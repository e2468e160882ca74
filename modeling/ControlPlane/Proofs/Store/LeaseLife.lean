import ControlPlane.Proofs.Store.Keys

/-!
# Live leases

A lease is live at a moment when it is in the table and its time is not up then. Within one
moment of the clock a live lease stays live: the sweep of every call drops only the leases whose
time is up, and writes change which keys a lease holds but not its number or its deadline. A
renewal or a grant that answers leaves its lease live, and a transaction all of whose attached
leases are live answers.

1. `LeaseLive`, and `LeaseLive.expire`, `LeaseLive.applyWrites`: the sweep and the writes keep it;
   the sweep keeps every lease whose time is not up (`mem_expire_leases`).
2. `LeaseLive.get`, `LeaseLive.txn`: so do the calls of a plug.
3. `keepAlive_ok`, `grant_ok`: what a renewal and a grant that answer did to the table;
   `keepAlive_live`, `grant_live`: they make their lease live.
4. `txn_ok`: a transaction attaching only live leases answers.
-/

namespace ControlPlane

namespace Store

/-- Lease `id` is in the table, and its time is not up at `now`. -/
def LeaseLive (now : Nat) (id : LeaseId) (s : Store) : Prop :=
  ∃ l ∈ s.leases, l.id = id ∧ LeaseRecord.isDue now l = false

/-- The number and deadline of each lease of the table. -/
def timings (s : Store) : List (LeaseId × Option Nat) := s.leases.map fun l => (l.id, l.deadline)

variable {s t : Store} {now : Nat} {id : LeaseId}

/-- A change that keeps the number and deadline of a live lease keeps it live. -/
theorem LeaseLive.of_timing (h : LeaseLive now id s)
    (ht : ∀ l ∈ s.leases, (l.id, l.deadline) ∈ t.timings) : LeaseLive now id t := by
  obtain ⟨l, hl, rfl, live⟩ := h
  obtain ⟨l', hl', same⟩ := List.mem_map.1 (ht l hl)
  simp only [Prod.mk.injEq] at same
  refine ⟨l', hl', same.1, ?_⟩
  unfold LeaseRecord.isDue at live ⊢
  rw [same.2]
  exact live

theorem LeaseLive.of_timings (h : LeaseLive now id s) (ht : t.timings = s.timings) :
    LeaseLive now id t :=
  h.of_timing fun _ hl => ht ▸ List.mem_map_of_mem hl

/-! ## Writes and sweeps -/

/-- A write changes the keys leases hold and nothing else of the table. -/
theorem writeStep_timings (rev : Revision) (acc : Store × List WatchEvent) (op : WriteOp) :
    (writeStep rev acc op).1.timings = acc.1.timings := by
  cases op with
  | put k v b =>
    simp only [writeStep, timings, putEntry_leases, List.map_map]
    rfl
  | delete k =>
    simp only [writeStep]
    cases hk : acc.1.find? k with
    | none => rw [deleteEntry_none hk]
    | some e =>
      rw [deleteEntry_some hk]
      simp only [timings, List.map_map]
      rfl

theorem foldl_writeStep_timings (rev : Revision) :
    ∀ (ops : List WriteOp) (acc : Store × List WatchEvent),
      (ops.foldl (writeStep rev) acc).1.timings = acc.1.timings
  | [], _ => rfl
  | op :: ops, acc => by
    rw [List.foldl_cons, foldl_writeStep_timings rev ops, writeStep_timings]

theorem applyWrites_timings {ops : List WriteOp} (hok : s.applyWrites ops = .ok t) :
    t.timings = s.timings := by
  rw [applyWrites_eq] at hok
  split at hok
  · cases hok
  · cases hok
    simp only [timings, commit_leases]
    exact foldl_writeStep_timings _ ops (s, [])

theorem LeaseLive.applyWrites {ops : List WriteOp} (hok : s.applyWrites ops = .ok t)
    (h : LeaseLive now id s) : LeaseLive now id t :=
  h.of_timings (applyWrites_timings hok)

/-- Dropping leases one after another leaves the others as they were. -/
theorem foldl_dropHeld_leases :
    ∀ (ids : List LeaseId) (s : Store),
      (ids.foldl Store.dropHeld s).leases = s.leases.filter fun l => !ids.contains l.id
  | [], s => by simp
  | j :: ids, s => by
    rw [List.foldl_cons, foldl_dropHeld_leases ids]
    have dropped : (s.dropHeld j).leases = s.leases.filter (·.id != j) := by
      simp only [dropHeld, commit_leases, withoutLease]
    rw [dropped, List.filter_filter]
    apply List.filter_congr
    intro l _
    simp only [List.contains_cons, Bool.not_or]
    rw [Bool.and_comm]
    congr 1

theorem LeaseLive.not_mem_dueLeases (hc : s.Consistent) (h : LeaseLive now id s) :
    id ∉ s.dueLeases now := by
  obtain ⟨l, hl, rfl, live⟩ := h
  intro due
  obtain ⟨l', hl', due', same⟩ := mem_dueLeases.1 due
  rw [hc.lease_eq_of_id hl' hl same, live] at due'
  cases due'

theorem mem_expire_leases (hc : s.Consistent) {l : LeaseRecord} (hl : l ∈ s.leases)
    (undue : LeaseRecord.isDue now l = false) : l ∈ (s.expire now).leases := by
  rw [hc.expire_eq_dropHeld, foldl_dropHeld_leases]
  refine List.mem_filter.2 ⟨hl, ?_⟩
  rw [Bool.not_eq_true', Bool.eq_false_iff, ne_eq, List.contains_iff_mem]
  exact LeaseLive.not_mem_dueLeases hc ⟨l, hl, rfl, undue⟩

theorem LeaseLive.expire (hc : s.Consistent) (h : LeaseLive now id s) :
    LeaseLive now id (s.expire now) := by
  obtain ⟨l, hl, rfl, live⟩ := h
  exact ⟨l, mem_expire_leases hc hl live, rfl, live⟩

/-! ## Calls -/

theorem LeaseLive.get (hc : s.Consistent) (h : LeaseLive now id s) (key : String) :
    LeaseLive now id (s.get now key).2 := by
  rw [get_eq]
  exact h.expire hc

theorem LeaseLive.txn (hc : s.Consistent) (h : LeaseLive now id s) (w : ConditionalWrite) :
    LeaseLive now id (s.txn now w).2 := by
  rw [Store.txn, call_snd]
  generalize hp : s.beforeSend now _ = p
  rcases beforeSend_cases hp with rfl | ⟨a, hw⟩
  · exact h.expire hc
  · obtain ⟨t, happ, hpure⟩ := Except.bind_eq_ok hw
    cases hpure
    have written := (h.expire hc).applyWrites happ
    exact written

/-- A deadline is never up at the moment it is set from. -/
theorem leaseDeadline_not_due {ttl : Int} {deadline : Option Nat}
    (h : leaseDeadline now ttl = .ok deadline) (l : LeaseRecord) :
    LeaseRecord.isDue now { l with deadline } = false := by
  unfold leaseDeadline at h
  split at h
  · cases h
    rfl
  · split at h
    · cases h
    · rename_i pos _
      cases h
      simp only [LeaseRecord.isDue, decide_eq_false_iff_not, Nat.not_le]
      omega

/-- A renewal that answers found its lease in the swept table and a deadline for the lease's
own time to live: it answers that time to live and gives the lease that deadline. -/
theorem keepAlive_ok {ttl : Int} (h : (s.keepAlive now id).1 = .ok ttl) :
    ∃ l ∈ (s.expire now).leases, l.id = id ∧ ttl = l.ttl ∧ ∃ deadline,
      leaseDeadline now l.ttl = .ok deadline ∧ { l with deadline } ∈ (s.keepAlive now id).2.leases := by
  have hw := call_ok h
  split at hw
  · cases hw
  · rename_i l found
    obtain ⟨deadline, hd, hpure⟩ := Except.bind_eq_ok hw
    obtain ⟨rfl, sent⟩ := Prod.mk.inj (Except.ok.inj hpure)
    have hl := List.mem_of_find?_eq_some found
    have same : l.id = id := by simpa using List.find?_some found
    refine ⟨l, hl, same, rfl, deadline, hd, ?_⟩
    rw [keepAlive, call_snd, ← sent]
    exact List.mem_map.2 ⟨l, hl, by simp [same]⟩

/-- A grant that answers found a deadline for the time to live asked for: it grants the next
number of the swept table and adds the lease, with that deadline, to the table. -/
theorem grant_ok {ttl : Int} {g : LeaseGrant} (h : (s.grant now ttl).1 = .ok g) :
    g = ⟨(s.expire now).nextLease, ttl⟩ ∧ ∃ deadline, leaseDeadline now ttl = .ok deadline ∧
      (s.grant now ttl).2.leases = (s.expire now).leases ++ [{ id := g.id, ttl, deadline }] := by
  obtain ⟨deadline, hd, hpure⟩ := Except.bind_eq_ok (call_ok h)
  obtain ⟨rfl, sent⟩ := Prod.mk.inj (Except.ok.inj hpure)
  refine ⟨rfl, deadline, hd, ?_⟩
  rw [grant, call_snd, ← sent]
  rfl

theorem keepAlive_live {ttl : Int} (h : (s.keepAlive now id).1 = .ok ttl) :
    LeaseLive now id (s.keepAlive now id).2 := by
  obtain ⟨l, -, same, -, deadline, hd, renewed⟩ := keepAlive_ok h
  exact ⟨_, renewed, same, leaseDeadline_not_due hd l⟩

theorem grant_live {ttl : Int} {g : LeaseGrant} (h : (s.grant now ttl).1 = .ok g) :
    LeaseLive now g.id (s.grant now ttl).2 := by
  obtain ⟨-, deadline, hd, leases⟩ := grant_ok h
  exact ⟨_, leases ▸ List.mem_append_right _ (List.mem_singleton_self _), rfl,
    leaseDeadline_not_due hd { id := g.id, ttl, deadline := none }⟩

/-! ## Transactions that answer -/

/-- Writes miss no lease when every lease they attach is in the table. -/
theorem missingLease?_eq_none {ops : List WriteOp}
    (h : ∀ k v id, .put k v (.attach id) ∈ ops → s.hasLease id = true) :
    s.missingLease? ops = none := by
  unfold missingLease?
  rw [List.findSome?_eq_none_iff]
  intro op hop
  split
  · rename_i k v id
    simp [h k v id hop]
  · rfl

/-- A transaction answers when every lease its writes attach is live. -/
theorem txn_ok (hc : s.Consistent) {w : ConditionalWrite}
    (hlive : ∀ k v id, .put k v (.attach id) ∈ w.onSuccess ++ w.onFailure → LeaseLive now id s) :
    ∃ r, (s.txn now w).1 = .ok r := by
  -- the sweep keeps every lease the writes attach, whichever branch the conditions pick
  have swept : ∀ (c : Bool) k v id, .put k v (.attach id) ∈ (if c then w.onSuccess else w.onFailure) →
      (s.expire now).hasLease id = true := by
    intro c k v id hput
    have hmem : WriteOp.put k v (.attach id) ∈ w.onSuccess ++ w.onFailure := by
      cases c
      · exact List.mem_append_right _ hput
      · exact List.mem_append_left _ hput
    obtain ⟨l, hl, rfl, -⟩ := (hlive k v id hmem).expire hc
    exact List.any_eq_true.2 ⟨l, hl, by simp⟩
  unfold txn call
  dsimp only
  rw [applyWrites_eq, missingLease?_eq_none (swept _)]
  exact ⟨_, rfl⟩


/-- A put answers when the lease it attaches, if any, is live. -/
theorem put_ok (hc : s.Consistent) {key value : String} {b : LeaseBinding}
    (hlive : ∀ id, b = .attach id → LeaseLive now id s) :
    ∃ r, (s.put now key value b).1 = .ok r := by
  have swept : ∀ k v id, .put k v (.attach id) ∈ [WriteOp.put key value b] →
      (s.expire now).hasLease id = true := by
    intro k v id hput
    have attached : b = .attach id := by
      simp only [List.mem_singleton, WriteOp.put.injEq] at hput
      exact hput.2.2.symm
    obtain ⟨l, hl, rfl, -⟩ := (hlive id attached).expire hc
    exact List.any_eq_true.2 ⟨l, hl, by simp⟩
  unfold put call
  dsimp only
  rw [applyWrites_eq, missingLease?_eq_none swept]
  exact ⟨_, rfl⟩

end Store

end ControlPlane
