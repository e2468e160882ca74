import ControlPlane.Proofs.Registry.Plugged
import ControlPlane.Proofs.Registry.Discovery
import ControlPlane.Proofs.Store.LeaseClock

/-!
# What a failed plug leaves behind

A plug can fail at its address check, its ttl check, its descriptors' checks, its lease, a
descriptor that differs from the stored one, or any call of the search index. All but one of
these come before its first endpoint write, and find the plane as the plug started it, seen
through the lease sweep of its store calls (`Withheld`):

* the store holds what it held, but for descriptor keys the plug created (`HeldSince`);
* the live leases are those of the start, and the one lease the plug granted, which holds no
  key;
* the index is as it was.

The one failure after them is the marking. Once the upsert has answered, the lease is live, so
every endpoint write answers (`Unmarked`), and a marking the index refuses leaves each endpoint
key written. The handler revokes a granted lease, and with it those keys (`LeftBehind`).
`failed_plug_leaves_nothing_unless_marking_fails` gives both cases, and
`failed_marking_leaves_endpoint` shows the second one on an empty store.
-/

namespace ControlPlane

open ControlPlane.Action

/-! ## Lease tables through the calls -/

namespace Store

variable {s t : Store} {now : Nat} {x id : LeaseId}

theorem leaseLive_iff_mem (h : ∀ l ∈ s.leases, LeaseRecord.isDue now l = false) :
    LeaseLive now x s ↔ x ∈ s.leases.map (·.id) := by
  constructor
  · rintro ⟨l, hl, rfl, -⟩
    exact List.mem_map_of_mem hl
  · intro hx
    obtain ⟨l, hl, rfl⟩ := List.mem_map.1 hx
    exact ⟨l, hl, rfl, h l hl⟩

theorem leaseLive_expire_iff (hc : s.Consistent) :
    LeaseLive now x (s.expire now) ↔ LeaseLive now x s := by
  refine ⟨fun ⟨l, hl, hid, live⟩ => ⟨l, ?_, hid, live⟩, fun h => h.expire hc⟩
  rw [hc.expire_eq_dropHeld, foldl_dropHeld_leases] at hl
  exact (List.mem_filter.1 hl).1

/-- A call whose store before sending has the lease numbers of the swept store keeps the live
leases. -/
theorem leaseLive_call_iff {α : Type} {work : Store → Except StoreError (α × Store)}
    (hc : s.Consistent) (rest : AtRest now (s.call now work).2)
    (ids : ∀ a t, work (s.expire now) = .ok (a, t) →
      t.leases.map (·.id) = (s.expire now).leases.map (·.id)) :
    LeaseLive now x (s.call now work).2 ↔ LeaseLive now x s := by
  rw [← leaseLive_expire_iff hc, leaseLive_iff_mem rest.undue,
    leaseLive_iff_mem (undue_expire hc), call_snd]
  generalize hp : s.beforeSend now work = p
  rcases beforeSend_cases hp with rfl | ⟨a, hw⟩
  · rfl
  · show x ∈ p.leases.map (·.id) ↔ _
    rw [ids a p hw]

theorem leaseLive_get_iff (hc : s.Consistent) (key : String) :
    LeaseLive now x (s.get now key).2 ↔ LeaseLive now x s :=
  leaseLive_call_iff hc (AtRest.get hc key) fun _ _ hw => by cases hw; rfl

theorem leaseLive_txn_iff (hc : s.Consistent) (w : ConditionalWrite) :
    LeaseLive now x (s.txn now w).2 ↔ LeaseLive now x s :=
  leaseLive_call_iff hc (AtRest.txn hc w) fun _ t hw => by
    obtain ⟨t', happ, hpure⟩ := Except.bind_eq_ok hw
    cases hpure
    have timed := congrArg (List.map Prod.fst) (applyWrites_timings happ)
    simp only [timings, List.map_map] at timed
    exact timed

theorem leaseLive_keepAlive_iff (hc : s.Consistent) :
    LeaseLive now x (s.keepAlive now id).2 ↔ LeaseLive now x s :=
  leaseLive_call_iff hc (AtRest.keepAlive hc id) fun _ t hw => by
    split at hw
    · cases hw
    · obtain ⟨deadline, -, hpure⟩ := Except.bind_eq_ok hw
      cases hpure
      exact mapLease_ids fun _ => rfl

theorem leaseLive_grant_iff (hc : s.Consistent) {ttl : Int} {g : LeaseGrant}
    (h : (s.grant now ttl).1 = .ok g) :
    LeaseLive now x (s.grant now ttl).2 ↔ LeaseLive now x s ∨ x = g.id := by
  rw [leaseLive_iff_mem (AtRest.grant hc ttl).undue, ← leaseLive_expire_iff hc,
    leaseLive_iff_mem (undue_expire hc)]
  obtain ⟨-, deadline, -, leases⟩ := grant_ok h
  rw [leases]
  simp [List.map_append]

theorem held_dropLease (hc : s.Consistent) (hid : id ≠ 0) (k : String) :
    (s.dropLease id).held k = (s.held k).filter (·.2 != id) := by
  rw [dropLease_eq hc.toLinked hid]
  unfold held dropHeld
  rw [commit_find?, find?_withoutLease hc.entries_sorted]
  cases s.find? k with
  | none => rfl
  | some e => by_cases same : e.lease = id <;> simp [Option.filter, same]

theorem held_dropLease_of_unheld (hc : s.Consistent) (hid : id ≠ 0)
    (unheld : ∀ k v, s.held k ≠ some (v, id)) (k : String) : (s.dropLease id).held k = s.held k := by
  rw [held_dropLease hc hid]
  cases hk : s.held k with
  | none => rfl
  | some kv =>
    have other : kv.2 ≠ id := fun same => unheld k kv.1 (by rw [hk, ← same])
    simp [Option.filter, other]

theorem AtRest.revoke (hc : s.Consistent) (id : LeaseId) : AtRest now (s.revoke now id).2 :=
  AtRest.call hc fun _ t hw l hl => by
    split at hw
    · cases hw
      rw [dropLease_leases hc.expire] at hl
      exact undue_expire hc l (List.mem_filter.1 hl).1
    · cases hw

/-- After the sweep, a lease is revoked when it is in the table; the other live leases stay. -/
theorem leaseLive_revoke_iff (hc : s.Consistent) :
    LeaseLive now x (s.revoke now id).2 ↔ LeaseLive now x s ∧ x ≠ id := by
  rw [leaseLive_iff_mem (AtRest.revoke hc id).undue, ← leaseLive_expire_iff hc,
    leaseLive_iff_mem (undue_expire hc)]
  unfold revoke call
  dsimp only
  by_cases found : (s.expire now).hasLease id = true
  · simp only [found, if_true, pure, Except.pure]
    show x ∈ ((s.expire now).dropLease id).leases.map (fun l : LeaseRecord => l.id) ↔ _
    rw [dropLease_leases hc.expire]
    simp only [List.mem_map, List.mem_filter, bne_iff_ne, ne_eq]
    constructor
    · rintro ⟨l, ⟨hl, other⟩, rfl⟩
      exact ⟨⟨l, hl, rfl⟩, other⟩
    · rintro ⟨⟨l, hl, rfl⟩, other⟩
      exact ⟨l, ⟨hl, other⟩, rfl⟩
  · simp only [found, Bool.false_eq_true, if_false, throw, throwThe, MonadExceptOf.throw]
    show x ∈ (s.expire now).leases.map (fun l : LeaseRecord => l.id) ↔ _
    refine ⟨fun hx => ⟨hx, fun same => found ?_⟩, fun h => h.1⟩
    obtain ⟨l, hl, rfl⟩ := List.mem_map.1 hx
    exact List.any_eq_true.2 ⟨l, hl, by simp [same]⟩

theorem LeaseLive.pos (hc : s.Consistent) (h : LeaseLive now id s) : 0 < id := by
  obtain ⟨l, hl, rfl, -⟩ := h
  exact Int.lt_of_lt_of_le (by decide) (hc.lease_ids l hl).1

/-- Revoking a live lease takes out, after the sweep, the keys it holds and leaves the others. -/
theorem held_revoke_of_live (hc : s.Consistent) (hid : id ≠ 0) (live : LeaseLive now id s)
    (k : String) : (s.revoke now id).2.held k = ((s.expire now).held k).filter (·.2 != id) := by
  have found : (s.expire now).hasLease id = true := by
    obtain ⟨l, hl, same, -⟩ := live.expire hc
    exact List.any_eq_true.2 ⟨l, hl, by simp [same]⟩
  unfold revoke call
  dsimp only
  simp only [found, if_true, pure, Except.pure]
  exact held_dropLease hc.expire hid k

/-- An endpoint write answers when the lease it binds, if any, is live. -/
theorem txn_endpointWrite_ok (hc : s.Consistent) (key value : String) {lease : LeaseId}
    (live : lease = 0 ∨ LeaseLive now lease s) :
    ∃ r, (s.txn now (endpointWrite key value lease)).1 = .ok r :=
  txn_ok hc fun k v id hmem => by
    simp [endpointWrite] at hmem
    obtain ⟨-, -, bound⟩ := hmem
    -- the write binds the lease only when it is one
    have ne : lease ≠ 0 := fun zero => by
      simp [zero, LeaseBinding.ofLease] at bound
    have same : id = lease := by
      by_cases pos : 0 < lease
      · simp only [LeaseBinding.ofLease, pos, if_true, LeaseBinding.attach.injEq] at bound
        exact bound
      · simp only [LeaseBinding.ofLease, pos, if_false, reduceCtorEq] at bound
    exact same ▸ live.resolve_left ne

theorem held_call {α : Type} {work : Store → Except StoreError (α × Store)}
    (same : ∀ a t, work (s.expire now) = .ok (a, t) → ∀ k, t.held k = (s.expire now).held k)
    (k : String) : (s.call now work).2.held k = (s.expire now).held k := by
  rw [call_snd]
  generalize hp : s.beforeSend now work = p
  rcases beforeSend_cases hp with rfl | ⟨a, hw⟩
  · rfl
  · exact same a p hw k

theorem held_keepAlive (k : String) : (s.keepAlive now id).2.held k = (s.expire now).held k :=
  held_call (fun _ t hw k => by
    split at hw
    · cases hw
    · obtain ⟨deadline, -, hpure⟩ := Except.bind_eq_ok hw
      cases hpure
      rfl) k

theorem held_grant {ttl : Int} (k : String) :
    (s.grant now ttl).2.held k = (s.expire now).held k :=
  held_call (fun _ t hw k => by
    obtain ⟨deadline, -, hpure⟩ := Except.bind_eq_ok hw
    cases hpure
    rfl) k

theorem held_revoke (hc : s.Consistent) (hid : id ≠ 0)
    (unheld : ∀ k v, (s.expire now).held k ≠ some (v, id)) (k : String) :
    (s.revoke now id).2.held k = (s.expire now).held k :=
  held_call (fun _ t hw k => by
    split at hw
    · cases hw
      exact held_dropLease_of_unheld hc.expire hid unheld k
    · cases hw) k

/-- The create of a descriptor key writes nothing but the key, only where the sweep left no
entry under it, and with no lease. -/
theorem held_create (hc : s.Consistent) {key v : String}
    (hpos : ∀ e, (s.expire now).find? key = some e → 0 < e.modRevision) (k : String) :
    (s.txn now (descriptorCreate key v)).2.held k = (s.expire now).held k ∨
      k = key ∧ (s.expire now).held k = none ∧
        (s.txn now (descriptorCreate key v)).2.held k = some (v, 0) := by
  obtain ⟨⟨ok, rev⟩, answered⟩ : ∃ r, (s.txn now (descriptorCreate key v)).1 = .ok r :=
    txn_ok hc fun k v' id hmem => by simp [descriptorCreate] at hmem
  obtain ⟨hok, after⟩ := txn_held hc answered
  rw [after k]
  cases ok with
  | false => exact .inl (by simp [descriptorCreate])
  | true =>
    -- the condition held, so the key had no entry
    have absent := Store.find?_eq_none_of_holds (by simpa [descriptorCreate] using hok.symm) hpos
    by_cases hk : k = key
    · subst hk
      refine .inr ⟨rfl, by simp [held, absent], ?_⟩
      simp [descriptorCreate, WriteOp.heldAfter, LeaseBinding.target]
    · exact .inl (by simp [descriptorCreate, WriteOp.heldAfter, hk])

theorem leaseLive_grant_error (hc : s.Consistent) {ttl : Int} {e : StoreError}
    (h : (s.grant now ttl).1 = .error e) :
    LeaseLive now x (s.grant now ttl).2 ↔ LeaseLive now x s :=
  leaseLive_call_iff hc (AtRest.grant hc ttl) fun a t hw => by
    unfold grant call at h
    dsimp only at h hw
    rw [hw] at h
    cases h

/-- The next lease number is no number of the table, so no key holds it. -/
theorem Consistent.held_ne_nextLease (hc : s.Consistent) (k v : String) :
    s.held k ≠ some (v, s.nextLease) := by
  intro held
  obtain ⟨e, found, he⟩ := Option.map_eq_some_iff.1 held
  have next : e.lease = s.nextLease := (Prod.mk.inj he).2
  have pos : e.lease ≠ 0 := fun zero => by
    have := hc.nextLease_pos
    rw [← next, zero] at this
    exact absurd this (by decide)
  obtain ⟨l, hl, -⟩ := hc.lease_of_entry k e found pos
  obtain ⟨same, mem⟩ := lease?_eq_some hl
  exact absurd (hc.lease_ids l mem).2 (by rw [same, next]; exact lt_irrefl _)

end Store

/-! ## What a plug keeps on its way -/

/-- Key by key, `s` holds what `s₀` holds, but for descriptor keys of `ks` that `s₀` does not
hold. -/
def HeldSince (ks : KeySpace) (s₀ s : Store) : Prop :=
  ∀ k, s.held k = s₀.held k ∨
    s₀.held k = none ∧ ∃ service zone, ks.decode k = some ⟨service, zone, .descriptor⟩

namespace HeldSince

variable {ks : KeySpace} {s₀ s₁ s₂ : Store}

theorem refl (ks : KeySpace) (s : Store) : HeldSince ks s s := fun _ => .inl rfl

theorem trans (h₁ : HeldSince ks s₀ s₁) (h₂ : HeldSince ks s₁ s₂) : HeldSince ks s₀ s₂ := by
  intro k
  rcases h₂ k with same | ⟨absent, descriptor⟩
  · rw [same]
    exact h₁ k
  · rcases h₁ k with same₁ | created
    · exact .inr ⟨same₁ ▸ absent, descriptor⟩
    · exact .inr created

end HeldSince

/-- A plug on its way, seen from the plane `p₀` it started from and through the sweep of its
store calls: the store holds what it held but for descriptor keys the plug created; the live
leases are those of the start and the lease the plug granted, if it granted one, which was not
live at the start and holds no key; the index is as it was. -/
structure Withheld (p₀ : Plane) (fresh : Option LeaseId) (p : Plane) : Prop where
  keyspace : p.keyspace = p₀.keyspace
  policy_eq : p.policy = p₀.policy
  clock : p.clock = p₀.clock
  index : p.index = p₀.index
  reached : Interleaved p₀.keyspace p₀.policy p.store
  held : HeldSince p₀.keyspace (p₀.store.expire p₀.clock) (p.store.expire p.clock)
  live : ∀ x, Store.LeaseLive p.clock x p.store ↔
    Store.LeaseLive p₀.clock x p₀.store ∨ fresh = some x
  granted : ∀ id, fresh = some id → id ≠ 0 ∧ ¬ Store.LeaseLive p₀.clock id p₀.store ∧
    ∀ k v, (p.store.expire p.clock).held k ≠ some (v, id)

section

variable {p₀ p : Plane} {fresh : Option LeaseId}

theorem Withheld.start (reached : Interleaved p₀.keyspace p₀.policy p₀.store) :
    Withheld p₀ none p₀ :=
  ⟨rfl, rfl, rfl, rfl, reached, .refl _ _, fun _ => ⟨.inl, fun h => h.resolve_right nofun⟩,
    nofun⟩

theorem Withheld.count (h : Withheld p₀ fresh p) (m : Metrics) :
    Withheld p₀ fresh { p with metrics := m } :=
  ⟨h.keyspace, h.policy_eq, h.clock, h.index, h.reached, h.held, h.live, h.granted⟩

theorem Withheld.consistent (h : Withheld p₀ fresh p) : p.store.Consistent :=
  h.reached.reachable.consistent

/-- A store call of the plug keeps it withheld when the store it leaves is at rest, reached by
registry calls, and holds what the sweep left but for created descriptor keys under no lease,
with the live leases `fresh'` asks for. -/
theorem Withheld.store (h : Withheld p₀ fresh p) {t : Store} (fresh' : Option LeaseId)
    (rest : Store.AtRest p.clock t) (reached : Interleaved p₀.keyspace p₀.policy t)
    (held : ∀ k, t.held k = (p.store.expire p.clock).held k ∨
      (p.store.expire p.clock).held k = none ∧
        (∃ service zone, p₀.keyspace.decode k = some ⟨service, zone, .descriptor⟩) ∧
        ∃ v, t.held k = some (v, 0))
    (live : ∀ x, Store.LeaseLive p.clock x t ↔
      Store.LeaseLive p₀.clock x p₀.store ∨ fresh' = some x)
    (granted : ∀ id, fresh' = some id → id ≠ 0 ∧ ¬ Store.LeaseLive p₀.clock id p₀.store ∧
      ∀ k v, (p.store.expire p.clock).held k ≠ some (v, id)) :
    Withheld p₀ fresh' { p with store := t } := by
  have swept : t.expire p.clock = t := Store.expire_atRest rest
  refine ⟨h.keyspace, h.policy_eq, h.clock, h.index, reached, ?_, live, fun id hid => ?_⟩
  · refine h.held.trans fun k => ?_
    show (t.expire p.clock).held k = _ ∨ _
    rw [swept]
    exact (held k).imp_right fun ⟨absent, descriptor, _⟩ => ⟨absent, descriptor⟩
  · obtain ⟨nonzero, notLive, unheld⟩ := granted id hid
    refine ⟨nonzero, notLive, fun k v hk => ?_⟩
    show False
    change (t.expire p.clock).held k = some (v, id) at hk
    rw [swept] at hk
    rcases held k with same | ⟨-, -, v', created⟩
    · exact unheld k v (same ▸ hk)
    · rw [created] at hk
      exact nonzero (Prod.mk.inj (Option.some.inj hk)).2.symm

theorem Withheld.get (h : Withheld p₀ fresh p) (key : String) :
    Withheld p₀ fresh { p with store := (p.store.get p.clock key).2 } := by
  have hc := h.consistent
  refine h.store fresh (Store.AtRest.get hc key) (h.reached.call (.get p.clock key))
    (fun k => .inl rfl) (fun x => ?_) (fun id hid => ?_)
  · rw [Store.leaseLive_get_iff hc, h.live]
  · exact h.granted id hid

/-- The create of a descriptor key keeps a plug withheld: it writes the key only where the sweep
left none, and under no lease. -/
theorem Withheld.create (h : Withheld p₀ fresh p) {d : Descriptor}
    (hz : checkServiceZone d.service d.zone = .ok ()) :
    Withheld p₀ fresh { p with store := (p.store.txn p.clock
      (descriptorCreate (p₀.keyspace.descriptorKey d.service d.zone) d.text)).2 } := by
  have hc := h.consistent
  -- the swept store's descriptor keys were written at a revision past 0
  have hpos : ∀ e, (p.store.expire p.clock).find? (p₀.keyspace.descriptorKey d.service d.zone) =
      some e → 0 < e.modRevision := fun e found =>
    ((h.reached.expire p.clock).descriptorsFresh _ _ _ e (p₀.keyspace.decode_descriptorKey hz)
      found).1.positive
  refine h.store fresh (Store.AtRest.txn hc _) (h.reached.call (.create p.clock d hz))
    (fun k => ?_) (fun x => ?_) (fun id hid => h.granted id hid)
  · rcases Store.held_create hc hpos k with same | ⟨rfl, absent, created⟩
    · exact .inl same
    · exact .inr ⟨absent, ⟨_, _, p₀.keyspace.decode_descriptorKey hz⟩, _, created⟩
  · rw [Store.leaseLive_txn_iff hc, h.live]

theorem Withheld.keepAlive (h : Withheld p₀ fresh p) (id : LeaseId) :
    Withheld p₀ fresh { p with store := (p.store.keepAlive p.clock id).2 } := by
  have hc := h.consistent
  refine h.store fresh (Store.AtRest.keepAlive hc id) (h.reached.call (.keepAlive p.clock id))
    (fun k => .inl (Store.held_keepAlive k)) (fun x => ?_) (fun id hid => h.granted id hid)
  rw [Store.leaseLive_keepAlive_iff hc, h.live]

/-- A grant that answers adds the plug's own lease: a number past the table, holding no key. -/
theorem Withheld.grant (h : Withheld p₀ none p) {ttl : Int} {g : LeaseGrant}
    (hg : (p.store.grant p.clock ttl).1 = .ok g) :
    Withheld p₀ (some g.id) { p with store := (p.store.grant p.clock ttl).2 } := by
  have hc := h.consistent
  have swept : (p.store.expire p.clock).Consistent := hc.expire
  have next : g.id = (p.store.expire p.clock).nextLease := by rw [(Store.grant_ok hg).1]
  refine h.store _ (Store.AtRest.grant hc ttl) (h.reached.call (.grant p.clock ttl))
    (fun k => .inl (Store.held_grant k)) (fun x => ?_) (fun id hid => ?_)
  · rw [Store.leaseLive_grant_iff hc hg, h.live]
    simp [eq_comm]
  · cases hid
    refine ⟨fun zero => ?_, fun live => ?_, fun k v => ?_⟩
    · have pos := swept.nextLease_pos
      rw [← next, zero] at pos
      exact absurd pos (by decide)
    · -- a lease live at the start is live now, and so a number of the swept table
      have now := (Store.leaseLive_expire_iff hc).2 ((h.live g.id).2 (.inl live))
      obtain ⟨l, hl, same, -⟩ := now
      exact absurd (swept.lease_ids l hl).2 (by rw [same, next]; exact lt_irrefl _)
    · rw [next]
      exact swept.held_ne_nextLease k v

theorem Withheld.grant_error (h : Withheld p₀ none p) {ttl : Int} {e : StoreError}
    (hg : (p.store.grant p.clock ttl).1 = .error e) :
    Withheld p₀ none { p with store := (p.store.grant p.clock ttl).2 } := by
  have hc := h.consistent
  refine h.store none (Store.AtRest.grant hc ttl) (h.reached.call (.grant p.clock ttl))
    (fun k => .inl (Store.held_grant k)) (fun x => ?_) (fun id hid => nomatch hid)
  rw [Store.leaseLive_grant_error hc hg, h.live]

/-- Revoking the plug's own lease, which holds no key, takes it out and leaves the rest. -/
theorem Withheld.revoke {id : LeaseId} (h : Withheld p₀ (some id) p) :
    Withheld p₀ none { p with store := (p.store.revoke p.clock id).2 } := by
  have hc := h.consistent
  obtain ⟨nonzero, notLive, unheld⟩ := h.granted id rfl
  refine h.store none (Store.AtRest.revoke hc id) (h.reached.call (.revoke p.clock id))
    (fun k => .inl (Store.held_revoke hc nonzero unheld k)) (fun x => ?_) (fun id hid => nomatch hid)
  rw [Store.leaseLive_revoke_iff hc, h.live]
  constructor
  · rintro ⟨live | same, other⟩
    · exact .inl live
    · exact absurd (Option.some.inj same).symm other
  · rintro (live | none)
    · exact ⟨.inl live, fun same => notLive (same ▸ live)⟩
    · cases none

end

/-! ## Past the upsert -/

/-- A plug past its upsert, seen from the plane `p₀` it started from and through the sweep of its
store calls. The index is as healthy as at the start, where it answered the upsert. Every key but
the endpoint keys `keys` holds what it held, but for descriptor keys the plug created; the keys
of `done` hold the endpoint under the plug's lease. The live leases are those of the start and
the one the plug granted, if it did, which holds endpoint keys only; the plug's lease is none or
live. -/
structure Unmarked (p₀ : Plane) (fresh : Option LeaseId) (e : Endpoint) (lease : LeaseId)
    (keys : List String) (done : String → Prop) (p : Plane) : Prop where
  keyspace : p.keyspace = p₀.keyspace
  policy_eq : p.policy = p₀.policy
  clock : p.clock = p₀.clock
  closed : p.index.closed = p₀.index.closed
  faults : p.index.faults = p₀.index.faults
  upserted : p₀.index.Answers .upsertPending
  reached : Interleaved p₀.keyspace p₀.policy p.store
  held : ∀ k, k ∉ keys → (p.store.expire p.clock).held k = (p₀.store.expire p₀.clock).held k ∨
    (p₀.store.expire p₀.clock).held k = none ∧
      ∃ service zone, p₀.keyspace.decode k = some ⟨service, zone, .descriptor⟩
  written : ∀ k, done k → (p.store.expire p.clock).held k = some (e.text, lease)
  live : ∀ x, Store.LeaseLive p.clock x p.store ↔
    Store.LeaseLive p₀.clock x p₀.store ∨ fresh = some x
  granted : ∀ id, fresh = some id → ¬ Store.LeaseLive p₀.clock id p₀.store ∧
    ∀ k v, (p.store.expire p.clock).held k = some (v, id) → k ∈ keys
  leaseLive : lease = 0 ∨ Store.LeaseLive p.clock lease p.store

/-- What a plug that failed at its marking leaves, seen from the plane `p₀` it started from and
through the sweep: the index answered the upsert and refused the marking; every key but the
endpoint keys `keys` holds what it held, but for descriptor keys the plug created; each endpoint
key holds `left`; and the live leases are those of the start. -/
structure LeftBehind (p₀ : Plane) (keys : List String) (left : Option (String × LeaseId))
    (p : Plane) : Prop where
  upserted : p₀.index.Answers .upsertPending
  refused : ¬ p₀.index.Answers .markVerified
  held : ∀ k, k ∉ keys → (p.store.expire p.clock).held k = (p₀.store.expire p₀.clock).held k ∨
    (p₀.store.expire p₀.clock).held k = none ∧
      ∃ service zone, p₀.keyspace.decode k = some ⟨service, zone, .descriptor⟩
  endpoints : ∀ k ∈ keys, (p.store.expire p.clock).held k = left
  live : ∀ x, Store.LeaseLive p.clock x p.store ↔ Store.LeaseLive p₀.clock x p₀.store

section

variable {p₀ p : Plane} {fresh : Option LeaseId} {e : Endpoint} {lease : LeaseId}
  {keys : List String} {done : String → Prop}

/-- Once the upsert answers, a withheld plug is past it, with no endpoint key written yet. -/
theorem Withheld.unmarked (h : Withheld p₀ fresh p)
    (leaseLive : lease = 0 ∨ Store.LeaseLive p.clock lease p.store) {ds : List Descriptor}
    (hne : ds ≠ []) {ix : Index} (hup : p.index.upsert ds false = .ok ix) (e : Endpoint)
    (keys : List String) : Unmarked p₀ fresh e lease keys (fun _ => False) { p with index := ix } := by
  obtain ⟨closed, faults⟩ := Index.upsert_health hup
  have upserted : p₀.index.Answers .upsertPending := by
    rcases Index.upsert_eq_ok hup with ⟨rfl, -⟩ | ⟨answers, -⟩
    · exact absurd rfl hne
    · rw [← h.index]
      exact answers
  refine ⟨h.keyspace, h.policy_eq, h.clock, closed.trans (congrArg Index.closed h.index),
    faults.trans (congrArg Index.faults h.index), upserted, h.reached, fun k _ => h.held k, nofun,
    h.live, fun id hid => ?_, leaseLive⟩
  obtain ⟨-, notLive, unheld⟩ := h.granted id hid
  exact ⟨notLive, fun k v held => absurd held (unheld k v)⟩

theorem LeftBehind.count {left : Option (String × LeaseId)} (h : LeftBehind p₀ keys left p)
    (m : Metrics) : LeftBehind p₀ keys left { p with metrics := m } :=
  ⟨h.upserted, h.refused, h.held, h.endpoints, h.live⟩

theorem Unmarked.mono {done' : String → Prop} (h : Unmarked p₀ fresh e lease keys done p)
    (hd : ∀ k, done' k → done k) : Unmarked p₀ fresh e lease keys done' p :=
  { h with written := fun k hk => h.written k (hd k hk) }

/-- An endpoint write past the upsert answers, and leaves its key holding the endpoint under the
plug's lease. -/
theorem Unmarked.endpoint {d : Descriptor} {ctx : String}
    (hz : checkServiceZone d.service d.zone = .ok ()) (ha : p₀.policy.check e.address = .ok ())
    (hk : p₀.keyspace.nodeKey d.service d.zone e.address ∈ keys) :
    Triple (Unmarked p₀ fresh e lease keys done)
      (onStore (fun s now => s.txn now
        (endpointWrite (p₀.keyspace.nodeKey d.service d.zone e.address) e.text lease)) ctx)
      (fun _ => Unmarked p₀ fresh e lease keys
        fun k => done k ∨ k = p₀.keyspace.nodeKey d.service d.zone e.address)
      (fun _ => False) := by
  refine .onStore_ok fun p h => ?_
  set key := p₀.keyspace.nodeKey d.service d.zone e.address
  have hc := h.reached.reachable.consistent
  have nonneg : 0 ≤ lease :=
    h.leaseLive.elim (fun zero => zero.symm.le) fun live => (live.pos hc).le
  obtain ⟨r, answered⟩ := Store.txn_endpointWrite_ok hc key e.text h.leaseLive
  have after := Store.txn_endpointWrite_held hc nonneg answered
  have swept : ((p.store.txn p.clock (endpointWrite key e.text lease)).2.expire p.clock) =
      (p.store.txn p.clock (endpointWrite key e.text lease)).2 :=
    Store.expire_atRest (Store.AtRest.txn hc _)
  refine ⟨r, answered, h.keyspace, h.policy_eq, h.clock, h.closed, h.faults, h.upserted,
    h.reached.call (.endpoint p.clock d.service d.zone e lease hz ha), fun k other => ?_,
    fun k hk' => ?_, fun x => ?_, fun id hid => ?_,
    h.leaseLive.imp_right fun live => live.txn hc _⟩
  · show ((p.store.txn p.clock (endpointWrite key e.text lease)).2.expire p.clock).held k = _ ∨ _
    rw [swept, after, if_neg fun (same : k = key) => other (same ▸ hk)]
    exact h.held k other
  · show ((p.store.txn p.clock (endpointWrite key e.text lease)).2.expire p.clock).held k = _
    rw [swept, after]
    split
    · rfl
    · exact h.written k (hk'.resolve_right ‹_›)
  · show Store.LeaseLive p.clock x (p.store.txn p.clock (endpointWrite key e.text lease)).2 ↔ _
    rw [Store.leaseLive_txn_iff hc]
    exact h.live x
  · -- the plug's own lease holds the written key, and what it held before
    obtain ⟨notLive, underKeys⟩ := h.granted id hid
    refine ⟨notLive, fun k v held => ?_⟩
    change ((p.store.txn p.clock (endpointWrite key e.text lease)).2.expire p.clock).held k =
      some (v, id) at held
    rw [swept, after] at held
    split at held
    · exact ‹k = key› ▸ hk
    · exact underKeys k v held

theorem Unmarked.leftBehind (h : Unmarked p₀ none e lease keys (· ∈ keys) p)
    (refused : ¬ p₀.index.Answers .markVerified) : LeftBehind p₀ keys (some (e.text, lease)) p :=
  ⟨h.upserted, refused, h.held, h.written, fun x => (h.live x).trans (or_iff_left nofun)⟩

/-- Revoking the plug's own lease takes out the endpoint keys it holds, and only them. -/
theorem Unmarked.revoke (h : Unmarked p₀ (some lease) e lease keys (· ∈ keys) p)
    (refused : ¬ p₀.index.Answers .markVerified) :
    LeftBehind p₀ keys none { p with store := (p.store.revoke p.clock lease).2 } := by
  have hc := h.reached.reachable.consistent
  have live := (h.live lease).2 (.inr rfl)
  obtain ⟨notLive, underKeys⟩ := h.granted lease rfl
  have swept : (p.store.revoke p.clock lease).2.expire p.clock = (p.store.revoke p.clock lease).2 :=
    Store.expire_atRest (Store.AtRest.revoke hc lease)
  have after := Store.held_revoke_of_live hc (live.pos hc).ne' live
  refine ⟨h.upserted, refused, fun k other => ?_, fun k hk => ?_, fun x => ?_⟩
  · show ((p.store.revoke p.clock lease).2.expire p.clock).held k = _ ∨ _
    have kept := h.held k other
    rw [swept, after]
    -- a key outside the endpoint keys is not under the plug's lease
    cases held : (p.store.expire p.clock).held k with
    | none => simpa [held] using kept
    | some kv =>
      have unleased : kv.2 ≠ lease := fun same => other (underKeys k kv.1 (by rw [held, ← same]))
      simpa [Option.filter, unleased, held] using kept
  · show ((p.store.revoke p.clock lease).2.expire p.clock).held k = none
    rw [swept, after, h.written k hk]
    simp [Option.filter]
  · show Store.LeaseLive p.clock x (p.store.revoke p.clock lease).2 ↔ _
    rw [Store.leaseLive_revoke_iff hc, h.live]
    constructor
    · rintro ⟨live | same, other⟩
      · exact live
      · exact absurd (Option.some.inj same).symm other
    · intro live
      exact ⟨.inl live, fun same => notLive (same ▸ live)⟩

end

/-! ## The steps of a plug -/

section

variable {p₀ : Plane} {fresh : Option LeaseId} {lease : LeaseId}

/-- A plug on its way whose lease is none or live. -/
def Withholding (p₀ : Plane) (fresh : Option LeaseId) (lease : LeaseId) (p : Plane) : Prop :=
  Withheld p₀ fresh p ∧ (lease = 0 ∨ Store.LeaseLive p.clock lease p.store)

/-- Every attempt at a descriptor keeps a plug withheld, whether it answers or not. -/
theorem ensureDescriptors_withheld {ds : List Descriptor}
    (hds : ∀ d ∈ ds, checkServiceZone d.service d.zone = .ok ()) :
    Triple (Withholding p₀ fresh lease) (ds.forM ensureDescriptor)
      (fun _ => Withholding p₀ fresh lease) (Withholding p₀ fresh lease) :=
  Triple.forM (fun _ => Withholding p₀ fresh lease) fun d _ hs =>
    ensureDescriptor_go_keeps d (fun _ h => h.1.keyspace)
      (fun _ ⟨h, live⟩ => ⟨h.create (hds d (hs.subset List.mem_cons_self)),
        live.imp_right fun live => live.txn h.consistent _⟩)
      (fun _ ⟨h, live⟩ => ⟨h.get _, live.imp_right fun live =>
        live.get h.consistent (p₀.keyspace.descriptorKey d.service d.zone)⟩)
      maxAttempts

/-- The endpoint keys of an address in the zones of some descriptors. -/
def endpointKeys (ks : KeySpace) (ds : List Descriptor) (address : String) : List String :=
  ds.map fun d => ks.nodeKey d.service d.zone address

theorem mem_endpointKeys {ks : KeySpace} {ds : List Descriptor} {address : String} {d : Descriptor}
    (hd : d ∈ ds) : ks.nodeKey d.service d.zone address ∈ endpointKeys ks ds address :=
  List.mem_map_of_mem hd

theorem endpointKeys_prepared {ks : KeySpace} {descs ds : List Descriptor} {address : String}
    (h : descs.mapM prepareDescriptor = .ok ds) :
    endpointKeys ks ds address = descs.map fun d => ks.nodeKey d.service (zoneOrDefault d.zone) address := by
  rw [endpointKeys, (mapM_prepareDescriptor_eq h).1, List.map_map]
  rfl

/-- A registration that fails either fails where a withheld plug fails, or at its marking: the
upsert answered, every endpoint key was written, and the index refuses the marking. -/
theorem writeRegistration_unmarked {e : Endpoint} {ds : List Descriptor}
    (hds : ∀ d ∈ ds, checkServiceZone d.service d.zone = .ok ()) (hne : ds ≠ [])
    (ha : p₀.policy.check e.address = .ok ()) :
    Triple (Withholding p₀ fresh lease) (writeRegistration ds e.address e.text lease)
      (fun _ _ => True)
      (fun p => Withheld p₀ fresh p ∨
        Unmarked p₀ fresh e lease (endpointKeys p₀.keyspace ds e.address)
          (· ∈ endpointKeys p₀.keyspace ds e.address) p ∧ ¬ p₀.index.Answers .markVerified) := by
  unfold writeRegistration
  refine .bind _ ((ensureDescriptors_withheld hds).conseq (fun _ h => h) (fun _ _ h => h)
    fun _ h => .inl h.1) fun _ => ?_
  -- the upsert fails with the index as it was; once it answers, the plug is past it
  refine .bind (fun _ => Unmarked p₀ fresh e lease (endpointKeys p₀.keyspace ds e.address)
      (fun _ => False))
    (.onIndexWrite (fun p ix ⟨h, leaseLive⟩ hup => h.unmarked leaseLive hne hup e _)
      fun p _ h _ => .inl h.1) fun _ => ?_
  refine .get_bind fun p₁ => .assume fun p ⟨h, same⟩ => ?_
  subst same
  rw [h.keyspace]
  -- the endpoint writes answer, one key after another
  refine .bind (fun _ => Unmarked p₀ fresh e lease (endpointKeys p₀.keyspace ds e.address)
      (· ∈ endpointKeys p₀.keyspace ds e.address))
    ((Triple.forM (fun rest => Unmarked p₀ fresh e lease (endpointKeys p₀.keyspace ds e.address)
        fun k => ∃ d ∈ ds, d ∉ rest ∧ k = p₀.keyspace.nodeKey d.service d.zone e.address)
      fun d rest hs => ?_).conseq
      (fun _ h' => h'.1.mono fun _ ⟨_, hd, notIn, _⟩ => notIn hd)
      (fun _ _ h' => h'.mono fun k hk => ?_) fun _ (h' : False) => h'.elim) fun _ => ?_
  · have hd : d ∈ ds := hs.subset List.mem_cons_self
    refine .bind _ ((Unmarked.endpoint (hds d hd) ha (mem_endpointKeys hd)).conseq
      (fun _ h' => h') (fun _ _ h' => h'.mono ?_) fun _ h' => h') fun _ => .pure fun _ h' => h'
    rintro k ⟨d', hd', notRest, rfl⟩
    by_cases same : d' = d
    · exact .inr (same ▸ rfl)
    · exact .inl ⟨d', hd', fun mem => (List.mem_cons.1 mem).elim same notRest, rfl⟩
  · obtain ⟨d, hd, rfl⟩ := List.mem_map.1 hk
    exact ⟨d, hd, nofun, rfl⟩
  -- the marking is the one call left that can fail, and it fails only where it is refused
  refine .onIndexWrite (fun _ _ _ _ => trivial) fun p err h herr => .inr ⟨h, fun answers => ?_⟩
  obtain ⟨ix, marked⟩ : ∃ ix, p.index.markVerified ds = .ok ix :=
    Index.markVerified_ok ((Index.answers_iff_of_eq h.closed h.faults).2 answers)
  rw [marked] at herr
  cases herr

/-! ## The lease -/

theorem renewLease_withheld (id : LeaseId) :
    Triple (Withheld p₀ none) (renewLease id) (fun _ => Withholding p₀ none id)
      (Withheld p₀ none) := by
  exact Triple.onStore_keeps (fun p h => h.keepAlive id) (fun _ h => h)
    fun _ _ _ answered => .inr (Store.keepAlive_live answered)

/-- A grant that answers gives the plug its own lease, live; one that fails leaves it
withheld. -/
theorem grantLease_withheld (ttl : Int) :
    Triple (Withheld p₀ none) (grantLease ttl) (fun g => Withholding p₀ (some g.id) g.id)
      (Withheld p₀ none) := by
  unfold grantLease
  refine .check_bind (fun _ => ?_) fun _ h => h
  refine .bind (fun g => Withholding p₀ (some g.id) g.id) (Triple.onStore fun p h => ?_)
    fun g => .bind (fun _ => Withholding p₀ (some g.id) g.id)
      (.modify fun _ h => ⟨h.1.count _, h.2⟩) fun _ => .pure fun _ h => h
  have granted : ∀ g, (p.store.grant p.clock ttl).1 = .ok g →
      Withholding p₀ (some g.id) g.id { p with store := (p.store.grant p.clock ttl).2 } :=
    fun _ answered => ⟨h.grant answered, .inr (Store.grant_live answered)⟩
  have refused : ∀ e, (p.store.grant p.clock ttl).1 = .error e →
      Withheld p₀ none { p with store := (p.store.grant p.clock ttl).2 } :=
    fun _ failed => h.grant_error failed
  revert granted refused
  rcases p.store.grant p.clock ttl with ⟨_ | g, t⟩
  · exact fun _ refused => refused _ rfl
  · exact fun granted _ => granted g rfl

theorem releaseLease_withheld (id : LeaseId) :
    Triple (Withheld p₀ (some id)) (releaseLease id) (fun _ => Withheld p₀ none)
      (Withheld p₀ none) :=
  .tryCatch (Withheld p₀ none)
    (.bind (fun _ => Withheld p₀ none) (Triple.onStore fun _ h => outcome_of_snd h.revoke)
      fun _ => .modify fun _ h => h.count _) fun _ => .pure fun _ h => h

/-- Releasing the plug's own lease past the upsert takes out the endpoint keys it wrote, whether
the revoke answers or not. -/
theorem Unmarked.release {e : Endpoint} {keys : List String} :
    Triple (fun p => Unmarked p₀ (some lease) e lease keys (· ∈ keys) p ∧
        ¬ p₀.index.Answers .markVerified) (releaseLease lease)
      (fun _ => LeftBehind p₀ keys none) (LeftBehind p₀ keys none) :=
  .tryCatch (LeftBehind p₀ keys none)
    (.bind (fun _ => LeftBehind p₀ keys none)
      (Triple.onStore fun _ ⟨h, refused⟩ => outcome_of_snd (h.revoke refused))
      fun _ => .modify fun _ h => h.count _) fun _ => .pure fun _ h => h

/-! ## The whole plug -/

/-- A plug that fails, run over a store that registry calls reach, either leaves its plane
withheld with no lease of its own, or failed at its marking and leaves its endpoint keys behind:
holding the endpoint under the plug's lease, or none where the handler released a lease the plug
granted. -/
theorem plugAll_failed (reached : Interleaved p₀.keyspace p₀.policy p₀.store)
    (descs : List Descriptor) (e : Endpoint) (ttl : Int) (lease : LeaseId) :
    Triple (· = p₀) (plugAll descs e ttl lease) (fun _ _ => True)
      (fun p => Withheld p₀ none p ∨
        LeftBehind p₀ (descs.map fun d => p₀.keyspace.nodeKey d.service (zoneOrDefault d.zone) e.address)
          (if lease = 0 ∧ 0 < ttl then none else some (e.text, lease)) p) := by
  have start := Withheld.start reached
  unfold plugAll
  refine .recorded ?_ (fun _ _ _ _ => trivial) fun _ m h =>
    h.imp (fun withheld => withheld.count m) fun left => left.count m
  refine .get_bind fun p₁ => .assume fun p ⟨hp, same⟩ => ?_
  subst p₁
  subst p
  -- the checks fail before any call, on the plane as it was
  refine .check_bind (fun ha => ?_) fun _ h => by rw [h.1]; exact .inl start
  extract_lets value checked
  have hchecked : descs ≠ [] → Triple (Withheld p₀ none) (checked ()) (fun _ _ => True)
      (fun p => Withheld p₀ none p ∨
        LeftBehind p₀ (descs.map fun d => p₀.keyspace.nodeKey d.service (zoneOrDefault d.zone) e.address)
          (if lease = 0 ∧ 0 < ttl then none else some (e.text, lease)) p) := by
    intro nonempty
    refine .check_bind (fun _ => ?_) fun _ h => .inl h
    refine .ofExcept_bind (fun ds hds => ?_) fun _ h => .inl h
    have hne : ds ≠ [] := by
      obtain ⟨d, hd⟩ := List.exists_mem_of_ne_nil descs nonempty
      obtain ⟨d', hd', -⟩ := mapM_prepareDescriptor_mem hds d hd
      exact List.ne_nil_of_mem hd'
    extract_lets registered
    -- the registration fails withheld or at its marking; the handler releases a granted lease
    -- and rethrows
    have hregistered : ∀ (x : LeaseGrant) (fresh : Bool) (left : Option (String × LeaseId)),
        cond fresh none (some (e.text, x.id)) = left →
        Triple (Withholding p₀ (cond fresh (some x.id) none) x.id) (registered (x, fresh))
          (fun _ _ => True) (fun p => Withheld p₀ none p ∨ LeftBehind p₀
            (descs.map fun d => p₀.keyspace.nodeKey d.service (zoneOrDefault d.zone) e.address)
            left p) := by
      intro x fresh left hleft
      rw [← endpointKeys_prepared hds]
      refine .tryCatch _ (.bind _ (writeRegistration_unmarked (mapM_prepareDescriptor_checked hds)
        hne ha) fun _ => .pure fun _ _ => trivial) fun _ => ?_
      extract_lets rethrow
      subst hleft
      cases fresh with
      | false =>
        exact .ite (fun c => nomatch c) fun _ => .throw fun _ h =>
          h.imp id fun ⟨unmarked, refused⟩ => unmarked.leftBehind refused
      | true =>
        refine .ite (fun _ => .bind _ ?_ fun _ => .throw fun _ h => h) fun c => absurd rfl c
        exact Triple.or ((releaseLease_withheld x.id).conseq (fun _ h => h) (fun _ _ h => .inl h)
            fun _ h => .inl h)
          (Unmarked.release.conseq (fun _ h => h) (fun _ _ h => .inr h) fun _ h => .inr h)
    -- the lease: renewed, granted, or none
    refine .ite (fun renewed => .bind _ ((renewLease_withheld lease).conseq (fun _ h => h)
        (fun _ _ h => h) fun _ h => .inl h) fun remaining =>
        .pure_bind (hregistered ⟨lease, remaining⟩ false _ ?_)) fun unleased => ?_
    · exact (if_neg fun zero => (bne_iff_ne.1 renewed) zero.1).symm
    have zero : lease = 0 := by simpa using unleased
    refine .ite (fun pos => .bind _ ((grantLease_withheld ttl).conseq (fun _ h => h)
        (fun _ _ h => h) fun _ h => .inl h) fun g =>
        .pure_bind (hregistered g true _ (if_pos ⟨zero, pos⟩).symm)) fun notPos => ?_
    refine .pure_bind ((hregistered ⟨0, ttl⟩ false _ ?_).conseq (fun _ h => ⟨h, .inl rfl⟩)
      (fun _ _ h => h) fun _ h => h)
    rw [if_neg fun both => notPos both.2, zero]
    rfl
  refine .ite (fun _ => .throw_bind fun _ h => by rw [h.1]; exact .inl start) fun empty => ?_
  exact (hchecked fun nil => empty (by simp [nil])).conseq (fun _ h => by rw [h.1]; exact start)
    (fun _ _ h => h) fun _ h => h

end

/-! ## A failed plug -/

/-- A plug that fails, over a store that registry calls reach, leaves the live leases as they
were, a lease it granted being released. Either it failed before its marking, and then it leaves
every key as it was, seen through the lease sweep, but for descriptor keys it created where the
sweep left none, and the index as it was. Or the index answered the upsert and refused the
marking: the plug then leaves its endpoint keys written, under its lease, or absent where it
released a lease it granted, and every other key as before. -/
theorem failed_plug_leaves_nothing_unless_marking_fails {p q : Plane}
    (reached : Interleaved p.keyspace p.policy p.store)
    {descs : List Descriptor} {e : Endpoint} {ttl : Int} {lease : LeaseId} {err : Error}
    (run : (plugAll descs e ttl lease).exec p = (.error err, q)) :
    let before := p.store.expire p.clock
    let after := q.store.expire q.clock
    let endpointKey (d : Descriptor) := p.keyspace.nodeKey d.service (zoneOrDefault d.zone) e.address
    let kept (k : String) := after.held k = before.held k ∨
      before.held k = none ∧ ∃ service zone, p.keyspace.decode k = some ⟨service, zone, .descriptor⟩
    (∀ id, Store.LeaseLive q.clock id q.store ↔ Store.LeaseLive p.clock id p.store) ∧
      ((∀ k, kept k) ∧ q.index = p.index ∨
        p.index.Answers .upsertPending ∧ ¬ p.index.Answers .markVerified ∧
          (∀ k, (∀ d ∈ descs, k ≠ endpointKey d) → kept k) ∧
          ∀ d ∈ descs, after.held (endpointKey d) =
            if lease = 0 ∧ 0 < ttl then none else some (e.text, lease)) := by
  intro before after endpointKey kept
  have failed := (plugAll_failed reached descs e ttl lease).run p rfl
  rw [run] at failed
  rcases failed with withheld | left
  · exact ⟨fun id => (withheld.live id).trans (or_iff_left nofun),
      .inl ⟨withheld.held, withheld.index⟩⟩
  · refine ⟨left.live, .inr ⟨left.upserted, left.refused, fun k outside => left.held k ?_,
      fun d hd => left.endpoints _ (List.mem_map_of_mem hd)⟩⟩
    intro mem
    obtain ⟨d, hd, same⟩ := List.mem_map.1 mem
    exact outside d hd same.symm

/-- A plug that grants a lease, on an empty store whose index is closed, creates its zone's
descriptor and fails at the upsert: it releases the lease, so no lease is live after it, and the
index is as it was. -/
theorem closed_index_plug_releases_lease :
    let p : Plane := { store := Store.make 0 0, index := { closed := true } }
    let plug := plugAll [{ service := "orders:1.0", zone := "dc-1", kind := "grpc" }]
      { kind := "grpc", address := "10.0.0.5:9000" } 10 0
    (∀ id, ¬ Store.LeaseLive (plug.exec p).2.clock id (plug.exec p).2.store) ∧
      (plug.exec p).2.index = p.index := by
  intro p plug
  have failed : (plug.exec p).1.toOption.isSome = false := by decide +kernel
  rcases run : plug.exec p with ⟨err | g, q⟩
  · obtain ⟨live, held | ⟨upserted, -⟩⟩ :=
      failed_plug_leaves_nothing_unless_marking_fails (Interleaved.make 0 0) run
    · refine ⟨fun id h => ?_, held.2⟩
      obtain ⟨l, hl, -⟩ := (live id).1 h
      simp [p, Store.make] at hl
    · -- a closed index answers no upsert
      exact absurd upserted (by decide)
  · rw [run] at failed
    cases failed

/-- A plug whose marking fails, with no lease, on an empty store, leaves its endpoint key
written: the failed plug is not undone. -/
theorem failed_marking_leaves_endpoint :
    let p : Plane := { store := Store.make 0 0, index := { faults := [.markVerified] } }
    let plug := plugAll [{ service := "orders:1.0", zone := "dc-1", kind := "grpc" }]
      { kind := "grpc", address := "10.0.0.5:9000" } 0 0
    let key := "/services/orders:1.0/dc-1/node_10.0.0.5:9000"
    (plug.exec p).1.toOption.isSome = false ∧ (p.store.expire p.clock).held key = none ∧
      ((plug.exec p).2.store.expire (plug.exec p).2.clock).held key ≠ none := by
  decide +kernel

end ControlPlane
