import ControlPlane.Proofs.Store.LeaseLife

/-!
# Stores at rest

A store is at rest at a moment when nothing it committed waits to be sent and no lease of its
table is due then. Every call leaves the store at rest at its moment: its sweep drops the due
leases, its work sets no lease due, and what it committed is sent (`AtRest.call`, and one lemma
per call). On a store at rest a call that writes nothing leaves the store as it found it
(`get_atRest`, `txn_atRest`), and so does renewing a lease whose deadline was set at that same
moment (`keepAlive_atRest`).

1. `AtRest`, `expire_atRest`, `publish_of_pending`: the sweep and the send do nothing.
2. `AtRest.call`: every call of the store leaves it at rest.
3. `RenewedAt`: a lease whose deadline was set at a moment; grants and renewals set it, and the
   other calls keep it.
-/

namespace ControlPlane

namespace Store

variable {s : Store} {now : Nat}

/-- Nothing waits to be sent, and no lease is due at `now`. -/
structure AtRest (now : Nat) (s : Store) : Prop where
  pending : s.pending = []
  undue : ∀ l ∈ s.leases, LeaseRecord.isDue now l = false

theorem publish_of_pending (h : s.pending = []) : s.publish = s := by
  cases s
  simp only [publish] at h ⊢
  rw [h]
  rfl

theorem dueLeases_atRest (h : AtRest now s) : s.dueLeases now = [] := by
  refine List.eq_nil_iff_forall_not_mem.2 fun id hid => ?_
  obtain ⟨l, hl, due, -⟩ := mem_dueLeases.1 hid
  rw [h.undue l hl] at due
  cases due

theorem expire_atRest (h : AtRest now s) : s.expire now = s := by
  rw [expire_eq, dueLeases_atRest h]
  rfl

/-- After the sweep, no lease is due. -/
theorem undue_expire (hc : s.Consistent) : ∀ l ∈ (s.expire now).leases, LeaseRecord.isDue now l = false := by
  intro l hl
  rw [hc.expire_eq_dropHeld, foldl_dropHeld_leases] at hl
  obtain ⟨hl, kept⟩ := List.mem_filter.1 hl
  -- a due lease has its number among the dropped ones
  rw [Bool.eq_false_iff]
  intro due
  have dropped : l.id ∈ s.dueLeases now := mem_dueLeases.2 ⟨l, hl, due, rfl⟩
  rw [Bool.not_eq_true', Bool.eq_false_iff, ne_eq, List.contains_iff_mem] at kept
  exact kept dropped

/-! ## Every call leaves the store at rest -/

/-- A call whose work sets no lease due leaves the store at rest at its moment. -/
theorem AtRest.call {α : Type} {work : Store → Except StoreError (α × Store)} (hc : s.Consistent)
    (hwork : ∀ a t, work (s.expire now) = .ok (a, t) → ∀ l ∈ t.leases, LeaseRecord.isDue now l = false) :
    AtRest now (s.call now work).2 := by
  rw [call_snd]
  generalize hp : s.beforeSend now work = p
  refine ⟨rfl, fun l hl => ?_⟩
  rcases beforeSend_cases hp with rfl | ⟨a, hw⟩
  · exact undue_expire hc l hl
  · exact hwork a p hw l hl

theorem AtRest.get (hc : s.Consistent) (key : String) : AtRest now (s.get now key).2 :=
  AtRest.call hc fun _ t hw => by
    cases hw
    exact undue_expire hc

/-- Writes keep the number and deadline of every lease, so they set none due. -/
theorem AtRest.txn (hc : s.Consistent) (w : ConditionalWrite) : AtRest now (s.txn now w).2 :=
  AtRest.call hc fun _ t hw l hl => by
    obtain ⟨t', happ, hpure⟩ := Except.bind_eq_ok hw
    cases hpure
    have timed : (l.id, l.deadline) ∈ (s.expire now).timings := by
      rw [← applyWrites_timings happ]
      exact List.mem_map_of_mem hl
    obtain ⟨l', hl', same⟩ := List.mem_map.1 timed
    unfold LeaseRecord.isDue
    rw [← (Prod.mk.inj same).2]
    exact undue_expire hc l' hl'

theorem AtRest.keepAlive (hc : s.Consistent) (id : LeaseId) : AtRest now (s.keepAlive now id).2 :=
  AtRest.call hc fun _ t hw l hl => by
    split at hw
    · cases hw
    · rename_i found
      obtain ⟨deadline, hd, hpure⟩ := Except.bind_eq_ok hw
      cases hpure
      -- the renewed lease gets a deadline set now; the others keep theirs
      obtain ⟨l₀, hl₀, rfl⟩ := List.mem_map.1 hl
      split
      · exact leaseDeadline_not_due hd l₀
      · exact undue_expire hc l₀ hl₀

theorem AtRest.grant (hc : s.Consistent) (ttl : Int) : AtRest now (s.grant now ttl).2 :=
  AtRest.call hc fun _ t hw l hl => by
    obtain ⟨deadline, hd, hpure⟩ := Except.bind_eq_ok hw
    cases hpure
    rcases List.mem_append.1 hl with old | granted
    · exact undue_expire hc l old
    · rw [List.mem_singleton.1 granted]
      exact leaseDeadline_not_due hd { id := 0, ttl, deadline := none }

/-! ## Calls that change nothing -/

theorem get_atRest (h : AtRest now s) (key : String) :
    s.get now key = (.ok (s.find? key, s.revision), s) := by
  rw [get_eq, expire_atRest h, publish_of_pending h.pending]

/-- A transaction on a store at rest whose conditions pick a branch without writes answers
and leaves the store as it was. -/
theorem txn_atRest (h : AtRest now s) {w : ConditionalWrite}
    (hw : (if w.conditions.all s.holds then w.onSuccess else w.onFailure) = []) :
    s.txn now w = (.ok (w.conditions.all s.holds, s.revision), s) := by
  unfold txn call
  rw [expire_atRest h]
  simp only [hw, applyWrites_eq, missingLease?, List.findSome?_nil, List.foldl_nil, commit_nil,
    bind, Except.bind, pure, Except.pure]
  rw [publish_of_pending h.pending]

/-! ## What the sweep removes -/

/-- Dropping leases one after another removes exactly the entries one of them holds. -/
theorem find?_foldl_dropHeld {k : String} :
    ∀ (ids : List LeaseId) (s : Store), s.Consistent →
      (ids.foldl Store.dropHeld s).find? k = (s.find? k).filter fun e => !ids.contains e.lease
  | [], s, _ => by
    rw [List.foldl_nil]
    cases s.find? k <;> rfl
  | j :: ids, s, hc => by
    rw [List.foldl_cons, find?_foldl_dropHeld ids _ hc.dropHeld]
    simp only [dropHeld, commit_find?, find?_withoutLease hc.entries_sorted]
    cases s.find? k with
    | none => rfl
    | some e => by_cases hj : e.lease = j <;> simp [Option.filter, hj]

theorem find?_expire (hc : s.Consistent) (k : String) :
    (s.expire now).find? k = (s.find? k).filter fun e => !(s.dueLeases now).contains e.lease := by
  rw [hc.expire_eq_dropHeld]
  exact find?_foldl_dropHeld _ s hc

/-- A key held by no lease, or by a live one, keeps its value and lease through the sweep. -/
theorem held_expire (hc : s.Consistent) {k v : String} {id : LeaseId} (h : s.held k = some (v, id))
    (live : id = 0 ∨ LeaseLive now id s) : (s.expire now).held k = some (v, id) := by
  rcases live with rfl | live
  · exact (Sweeps.expire hc now).unleased k v h
  obtain ⟨e, he, same⟩ := Option.map_eq_some_iff.1 h
  cases same
  have kept : (!(s.dueLeases now).contains e.lease) = true := by
    rw [Bool.not_eq_true', Bool.eq_false_iff, ne_eq, List.contains_iff_mem]
    exact live.not_mem_dueLeases hc
  simp only [held, find?_expire hc, he, Option.filter, kept, if_true, Option.map_some]

/-! ## Writes keep every lease's terms -/

/-- A write changes the keys leases hold and nothing else: a view of a lease blind to its keys
stays. -/
theorem writeStep_leases_map {β : Type} (f : LeaseRecord → β)
    (hf : ∀ l (keys : List String), f { l with keys } = f l) (rev : Revision)
    (acc : Store × List WatchEvent) (op : WriteOp) :
    (writeStep rev acc op).1.leases.map f = acc.1.leases.map f := by
  cases op with
  | put k v b =>
    simp only [writeStep, putEntry_leases, List.map_map]
    exact List.map_congr_left fun l _ => hf l _
  | delete k =>
    simp only [writeStep]
    cases hk : acc.1.find? k with
    | none => rw [deleteEntry_none hk]
    | some e =>
      rw [deleteEntry_some hk]
      simp only [List.map_map]
      exact List.map_congr_left fun l _ => hf l _

theorem applyWrites_leases_map {β : Type} (f : LeaseRecord → β)
    (hf : ∀ l (keys : List String), f { l with keys } = f l) {ops : List WriteOp} {t : Store}
    (hok : s.applyWrites ops = .ok t) : t.leases.map f = s.leases.map f := by
  rw [applyWrites_eq] at hok
  split at hok
  · cases hok
  · cases hok
    rw [commit_leases]
    -- the writes, one after another, each keep the view
    suffices ∀ (ops : List WriteOp) (acc : Store × List WatchEvent),
        (ops.foldl (writeStep (s.revision + 1)) acc).1.leases.map f = acc.1.leases.map f from
      this ops (s, [])
    intro ops
    induction ops with
    | nil => intro acc; rfl
    | cons op ops ih =>
      intro acc
      rw [List.foldl_cons, ih, writeStep_leases_map f hf]

/-! ## Leases renewed at a moment -/

/-- Lease `id` is in the table, alone under its number, with the deadline its time to live sets
at `now`. -/
def RenewedAt (now : Nat) (id : LeaseId) (s : Store) : Prop :=
  ∃ l ∈ s.leases, l.id = id ∧ leaseDeadline now l.ttl = .ok l.deadline

variable {id : LeaseId}

theorem RenewedAt.live (h : RenewedAt now id s) : LeaseLive now id s := by
  obtain ⟨l, hl, rfl, hd⟩ := h
  exact ⟨l, hl, rfl, leaseDeadline_not_due hd l⟩

theorem RenewedAt.expire (hc : s.Consistent) (h : RenewedAt now id s) : RenewedAt now id (s.expire now) := by
  obtain ⟨l, hl, hid, hd⟩ := h
  exact ⟨l, mem_expire_leases hc hl (leaseDeadline_not_due hd l), hid, hd⟩

theorem RenewedAt.applyWrites {ops : List WriteOp} {t : Store} (hok : s.applyWrites ops = .ok t)
    (h : RenewedAt now id s) : RenewedAt now id t := by
  obtain ⟨l, hl, rfl, hd⟩ := h
  have terms := applyWrites_leases_map (fun l => (l.id, l.ttl, l.deadline)) (fun _ _ => rfl) hok
  have kept : (l.id, l.ttl, l.deadline) ∈ t.leases.map fun l => (l.id, l.ttl, l.deadline) := by
    rw [terms]
    exact List.mem_map_of_mem hl
  obtain ⟨l', hl', same⟩ := List.mem_map.1 kept
  simp only [Prod.mk.injEq] at same
  obtain ⟨hid, httl, hdl⟩ := same
  exact ⟨l', hl', hid, by rw [httl, hdl]; exact hd⟩

theorem RenewedAt.get (hc : s.Consistent) (h : RenewedAt now id s) (key : String) :
    RenewedAt now id (s.get now key).2 := by
  rw [get_eq]
  exact h.expire hc

theorem RenewedAt.txn (hc : s.Consistent) (h : RenewedAt now id s) (w : ConditionalWrite) :
    RenewedAt now id (s.txn now w).2 := by
  rw [Store.txn, call_snd]
  generalize hp : s.beforeSend now _ = p
  rcases beforeSend_cases hp with rfl | ⟨a, hw⟩
  · exact h.expire hc
  · obtain ⟨t, happ, hpure⟩ := Except.bind_eq_ok hw
    cases hpure
    have written := (h.expire hc).applyWrites happ
    exact written

theorem keepAlive_renewedAt {ttl : Int} (h : (s.keepAlive now id).1 = .ok ttl) :
    RenewedAt now id (s.keepAlive now id).2 := by
  obtain ⟨l, -, same, -, deadline, hd, renewed⟩ := keepAlive_ok h
  exact ⟨_, renewed, same, hd⟩

theorem grant_renewedAt {ttl : Int} {g : LeaseGrant} (h : (s.grant now ttl).1 = .ok g) :
    RenewedAt now g.id (s.grant now ttl).2 := by
  obtain ⟨-, deadline, hd, leases⟩ := grant_ok h
  exact ⟨_, leases ▸ List.mem_append_right _ (List.mem_singleton_self _), rfl, hd⟩

/-- Renewing, on a store at rest, a lease whose deadline was set at the same moment changes
nothing. -/
theorem keepAlive_atRest (h : AtRest now s) (hc : s.Consistent) (hr : RenewedAt now id s) :
    ∃ ttl, s.keepAlive now id = (.ok ttl, s) := by
  obtain ⟨l, hl, rfl, hd⟩ := hr
  -- the lease found under the number is `l`, and every lease under it is `l`
  have alone : ∀ l' ∈ s.leases, l'.id = l.id → l' = l := fun l' hl' same =>
    hc.lease_eq_of_id hl' hl same
  have found : s.leases.find? (·.id == l.id) = some l := by
    obtain ⟨l', hfound⟩ := Option.isSome_iff_exists.1
      ((List.find?_isSome (p := fun l' => l'.id == l.id)).2 ⟨l, hl, beq_self_eq_true _⟩)
    rw [hfound, alone l' (List.mem_of_find?_eq_some hfound) (by simpa using List.find?_some hfound)]
  have unchanged : (s.mapLease l.id fun l' => { l' with deadline := l.deadline }) = s := by
    have same : (s.leases.map fun l' =>
        if l'.id == l.id then { l' with deadline := l.deadline } else l') = s.leases := by
      conv => rhs; rw [← List.map_id s.leases]
      refine List.map_congr_left fun l' hl' => ?_
      split
      · rename_i hid
        rw [alone l' hl' (by simpa using hid)]
        rfl
      · rfl
    unfold mapLease
    rw [same]
  refine ⟨l.ttl, ?_⟩
  unfold keepAlive call
  rw [expire_atRest h]
  simp only [found, hd, bind, Except.bind, pure, Except.pure, unchanged]
  rw [publish_of_pending h.pending]

end Store

end ControlPlane
