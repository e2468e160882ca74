import ControlPlane.Proofs.Reconcile.Pass
import ControlPlane.Proofs.Registry.Frame
import ControlPlane.Proofs.Registry.Operations
import ControlPlane.Proofs.Store.LeaseLife
import ControlPlane.Proofs.Json.ReadBack

/-!
# The index follows the store

The store holds the descriptors, the index one row per zone. A plug creates each descriptor it
needs, then writes the pending rows, the endpoint keys, and marks the rows verified; the other
operations put no descriptor key and only ever soft-delete rows. So the index agrees with the
store (`IndexAgrees`) after every operation, failed or not, provided a plug never fails half
way: its descriptors of one zone must carry one hash, and one the store already holds for a
zone must hash as they do (`PlugAgrees`). A plug that agrees creates its descriptors, answers
every call it makes and leaves every zone it touched verified (`plugAll_agrees`).

1. `Agreeing`, and `keptByRegistry_agreeing`: the operations other than a plug keep it.
2. `Plugging`: what holds at each step of a plug that agrees, and one lemma per step.
3. `plugAll_agrees`: a plug that agrees keeps the index agreeing.
-/

namespace ControlPlane

open ControlPlane.Action

section

variable {ks : KeySpace} {s : Store} {Q : String → String → String → Prop}

/-! ## Descriptor keys through a store call -/

theorem DescriptorsSatisfy.apply {c : Store.Call} (h : DescriptorsSatisfy ks Q s) (hc : s.Consistent)
    (hput : ∀ t k service zone, ks.decode k = some ⟨service, zone, .descriptor⟩ →
      ∀ v b, .put k v b ∈ c.writesAt t → Q service zone v) :
    DescriptorsSatisfy ks Q (c.apply s) := by
  intro k service zone hk v l hv
  rcases c.held_apply_cases hc hv with before | ⟨t, b, hmem, -⟩
  · exact h k service zone hk v l before
  · exact hput t k service zone hk v b hmem

theorem PutsNoDescriptor.putsDetached {ops : List WriteOp} (h : PutsNoDescriptor ks ops) :
    PutsDetached ks ops :=
  fun k service zone hk v b hmem => absurd hmem (h k service zone hk v b)

theorem eq_descriptorKey {k service zone : String}
    (hk : ks.decode k = some ⟨service, zone, .descriptor⟩) : k = ks.descriptorKey service zone :=
  (ks.eq_encode_of_decode hk).1

/-! ## Rows that agree with their descriptor -/

variable {rows rows' : List ServiceRow} {service zone v : String}

theorem ZoneIndexed.of_zone (h : ZoneIndexed rows service zone v)
    (same : ∀ r, r.service = service → r.zone = zone → (r ∈ rows' ↔ r ∈ rows)) :
    ZoneIndexed rows' service zone v := by
  obtain ⟨stored, hread, ⟨r, hr, hs, hz⟩, hrows⟩ := h
  exact ⟨stored, hread, ⟨r, (same r hs hz).2 hr, hs, hz⟩,
    fun r hr hs hz => hrows r ((same r hs hz).1 hr) hs hz⟩

/-- Rows changed in place, each deleted or verified, keep agreeing. -/
theorem ZoneIndexed.advances {ix ix' : Index} (h : ZoneIndexed ix.services service zone v)
    (hadv : ix.Advances ix') : ZoneIndexed ix'.services service zone v := by
  obtain ⟨stored, hread, ⟨r, hr, hs, hz⟩, hrows⟩ := h
  refine ⟨stored, hread, ?_, fun r' hr' hs' hz' => ?_⟩
  · obtain ⟨r', hr', -, hs', hz', -⟩ := hadv.image hr
    exact ⟨r', hr', hs'.trans hs, hz'.trans hz⟩
  · obtain ⟨r, hr, -, hs₀, hz₀, change⟩ := hadv.mem hr'
    rcases change with deleted | ⟨status, hash, verified⟩
    · exact .inl deleted
    rcases hrows r hr (hs₀.symm.trans hs') (hz₀.symm.trans hz') with deleted | ⟨active, ver, hh⟩
    · exact .inl (status.trans deleted)
    · exact .inr ⟨status.trans active, verified ver, hash.trans hh⟩

variable {p : Plane}

theorem IndexAgrees.advances {ix : Index} (h : IndexAgrees ks p) (hadv : p.index.Advances ix) :
    IndexAgrees ks { p with index := ix } :=
  ⟨fun k service zone hk v l hv => (h.descriptors k service zone hk v l hv).advances hadv,
    fun _ => hadv.answers.2 (h.answers _), hadv.numbered h.numbered⟩

/-! ## The operations other than a plug -/

/-- The registry keeps descriptor keys unleased and the index agreeing with the store. -/
def Agreeing (ks : KeySpace) (p : Plane) : Prop := DescriptorsUnleased ks p.store ∧ IndexAgrees ks p

/-- Store calls that put no descriptor key, soft deletions and counting keep the index
agreeing. -/
theorem keptByRegistry_agreeing : KeptByRegistry ks (Agreeing ks) where
  call _ _ hc hput h :=
    ⟨h.1.apply hc fun t => (hput t).putsDetached,
      ⟨h.2.descriptors.apply hc fun t k service zone hk v b hmem =>
        absurd hmem (hput t k service zone hk v b), h.2.answers, h.2.numbered⟩⟩
  softDelete _ _ _ _ _ hok h := ⟨h.1, h.2.advances (Index.softDelete_advances hok)⟩
  count _ _ h := ⟨h.1, ⟨h.2.descriptors, h.2.answers, h.2.numbered⟩⟩

end

/-! ## A plug under way -/

/-- A stored descriptor text reads as a descriptor whose recomputed hash is `d`'s content hash. -/
def HashesAs (v : String) (d : Descriptor) : Prop :=
  ∃ stored, Descriptor.read? v = some stored ∧ stored.computeHash = d.contentHash

/-- Descriptors of one zone carry one content hash. -/
def ZonesAgree (ds : List Descriptor) : Prop :=
  ∀ d ∈ ds, ∀ d' ∈ ds, d'.service = d.service → d'.zone = d.zone → d'.contentHash = d.contentHash

/-- The descriptors of a plug agree with each other and with every descriptor the store holds
for their zones, so no descriptor of the plug is refused as changed. -/
structure PlugAgrees (ks : KeySpace) (ds : List Descriptor) (s : Store) : Prop where
  zones : ZonesAgree ds
  stored : ∀ d ∈ ds, ∀ v l, s.held (ks.descriptorKey d.service d.zone) = some (v, l) → HashesAs v d

/-- What a descriptor key of a zone holds while a plug of `ds` runs: a descriptor that hashes as
each of the plug's descriptors of the zone, and the zone is one of the plug's, or its rows agree
with it. -/
def PlugView (ds : List Descriptor) (rows : List ServiceRow) (service zone v : String) : Prop :=
  (∀ d ∈ ds, d.service = service → d.zone = zone → HashesAs v d) ∧
    ((∃ d ∈ ds, d.service = service ∧ d.zone = zone) ∨ ZoneIndexed rows service zone v)

/-- A plane in the middle of a plug of the prepared descriptors `ds`, holding its endpoints by
`lease`: the store is consistent with no descriptor key leased, the lease is live, the index
answers every call and is numbered, and every descriptor key held is seen as `PlugView` says. -/
structure Plugging (ks : KeySpace) (ds : List Descriptor) (lease : LeaseId) (p : Plane) : Prop where
  keyspace : p.keyspace = ks
  consistent : p.store.Consistent
  unleased : DescriptorsUnleased ks p.store
  live : 0 < lease → Store.LeaseLive p.clock lease p.store
  answers : ∀ call, p.index.Answers call
  numbered : p.index.Numbered
  checked : ∀ d ∈ ds, checkServiceZone d.service d.zone = .ok ()
  hashed : ∀ d ∈ ds, d.computeHash = d.contentHash
  zones : ZonesAgree ds
  descriptors : DescriptorsSatisfy ks (PlugView ds p.index.services) p.store

section

variable {ks : KeySpace} {ds : List Descriptor} {lease : LeaseId} {α : Type}

/-- A store call at the plane's clock keeps a plug under way when what it puts under a
descriptor key is seen as `PlugView` says, it puts descriptor keys under no lease, and it keeps a
live lease live; when it answers, its answer and the plane it leaves meet `Q`. -/
theorem Plugging.onStore {pre : Plane → Prop} {call : Store → Nat → Except StoreError α × Store}
    {ctx : String} {c : Nat → Store.Call} {Q : α → Plane → Prop}
    (hc : ∀ s now, (call s now).2 = (c now).apply s)
    (hpre : ∀ p, pre p → Plugging ks ds lease p)
    (hput : ∀ p, pre p → ∀ t k service zone, ks.decode k = some ⟨service, zone, .descriptor⟩ →
      ∀ v b, .put k v b ∈ (c p.clock).writesAt t → PlugView ds p.index.services service zone v)
    (hdet : ∀ now t, PutsDetached ks ((c now).writesAt t))
    (hlive : ∀ s now, s.Consistent → Store.LeaseLive now lease s →
      Store.LeaseLive now lease ((c now).apply s))
    (hok : ∀ p, pre p → ∃ a, (call p.store p.clock).1 = .ok a ∧
      Q a { p with store := (call p.store p.clock).2 }) :
    Triple pre (ControlPlane.onStore call ctx) (fun a p => Plugging ks ds lease p ∧ Q a p)
      (fun _ => False) := by
  refine Triple.onStore_ok fun p hp => ?_
  have h := hpre p hp
  obtain ⟨a, answered, hq⟩ := hok p hp
  refine ⟨a, answered, ⟨h.keyspace, ?_, ?_, ?_, h.answers, h.numbered, h.checked, h.hashed, h.zones,
    ?_⟩, hq⟩ <;> dsimp only <;> rw [hc]
  · exact h.consistent.apply _
  · exact h.unleased.apply h.consistent (hdet p.clock)
  · exact fun pos => hlive _ _ h.consistent (h.live pos)
  · exact h.descriptors.apply h.consistent (hput p hp)

/-! ## Creating the descriptors -/

/-- A create that did not write found the key there, and left it there. -/
theorem create_held_of_false {s : Store} (hc : s.Consistent) {now : Nat} {key v : String}
    {rev : Revision} (h : (s.txn now (descriptorCreate key v)).1 = .ok (false, rev)) :
    ((s.txn now (descriptorCreate key v)).2.held key).isSome := by
  obtain ⟨cond, held⟩ := Store.txn_held hc h
  rw [held key]
  -- the only condition is a revision of 0, which every absent key has
  simp only [descriptorCreate, List.all_cons, List.all_nil, Bool.and_true, Store.holds,
    Bool.false_eq, beq_eq_false_iff_ne, ne_eq] at cond
  simp only [Bool.false_eq_true, if_false, descriptorCreate, List.foldl_nil]
  cases hf : (s.expire now).find? key with
  | none => simp [hf] at cond
  | some kv => simp [Store.held, hf]

theorem get_of_held {s : Store} (hc : s.Consistent) (now : Nat) {key v : String}
    (h : s.held key = some (v, 0)) :
    ∃ kv rev, (s.get now key).1 = .ok (some kv, rev) ∧ kv.value = v := by
  have swept := (Store.Sweeps.expire hc now).unleased key v h
  unfold Store.held at swept
  obtain ⟨kv, found, hv⟩ := Option.map_eq_some_iff.1 swept
  refine ⟨kv, (s.expire now).revision, ?_, (Prod.mk.inj hv).1⟩
  rw [Store.get_eq, found]

/-- One attempt at a descriptor of a plug under way answers: the create writes it, or the read
finds the stored descriptor, which hashes as the plug's. -/
theorem ensureDescriptor_go_plugging {d : Descriptor} (hd : d ∈ ds) (n : Nat) :
    Triple (Plugging ks ds lease) (ensureDescriptor.go d (n + 1))
      (fun _ => Plugging ks ds lease) (fun _ => False) := by
  unfold ensureDescriptor.go
  refine .get_bind fun p₀ => .assume fun p start => ?_
  obtain ⟨h, hp⟩ := start
  subst hp
  rw [h.keyspace]
  have hz := h.checked d hd
  have hkey := ks.decode_descriptorKey hz
  -- the create puts the plug's own text, which hashes as every descriptor of its zone
  refine .bind (fun r p => Plugging ks ds lease p ∧
      (r.1 = false → (p.store.held (ks.descriptorKey d.service d.zone)).isSome))
    (Plugging.onStore (c := fun now => .txn now (descriptorCreate _ d.text))
      (Q := fun r p => r.1 = false → (p.store.held (ks.descriptorKey d.service d.zone)).isSome)
      (fun _ _ => rfl) (fun _ h => h.1) (fun p _ t k service zone hk v b hmem => ?put)
      (fun _ _ => (RegistryCall.create 0 d hz : RegistryCall ks p.policy _).putsDetached _)
      (fun s now hc live => live.txn hc _) fun p' hp' => ?answer) fun written => ?_
  case put =>
    obtain ⟨-, rfl, rfl, -⟩ : t.holds (.modRevisionEquals (ks.descriptorKey d.service d.zone) 0)
        = true ∧ k = ks.descriptorKey d.service d.zone ∧ v = d.text ∧ b = .detach := by
      simpa [Store.Call.writesAt, descriptorCreate] using hmem
    rw [hkey] at hk
    cases hk
    refine ⟨fun d' hd' hs hz' => ?_, .inl ⟨d, hd, rfl, rfl⟩⟩
    exact ⟨d, Descriptor.read?_text d, (h.hashed d hd).trans (h.zones d hd d' hd' hs hz').symm⟩
  case answer =>
    have consistent := hp'.1.consistent
    obtain ⟨⟨created, rev⟩, hr⟩ : ∃ r, (p'.store.txn p'.clock
        (descriptorCreate (ks.descriptorKey d.service d.zone) d.text)).1 = .ok r :=
      Store.txn_ok consistent fun k v id hmem => by simp [descriptorCreate] at hmem
    exact ⟨_, hr, fun hf => by subst hf; exact create_held_of_false consistent hr⟩
  obtain ⟨created, _⟩ := written
  refine .ite (fun _ => .pure fun _ h => h.1) fun notCreated => ?_
  have absent : created = false := by simpa using notCreated
  -- the read finds the descriptor that stopped the create
  refine .bind (fun r p => Plugging ks ds lease p ∧ ∃ kv, r.1 = some kv ∧ HashesAs kv.value d)
    (Plugging.onStore (c := fun now => .get now (ks.descriptorKey d.service d.zone))
      (Q := fun r _ => ∃ kv, r.1 = some kv ∧ HashesAs kv.value d) (fun _ _ => rfl) (fun _ h => h.1)
      (fun _ _ _ _ _ _ _ _ _ hmem => by simp [Store.Call.writesAt] at hmem)
      (fun _ _ => putsDetached_nil) (fun s now hc live => live.get hc _)
      fun p' hp' => ?_) fun read => ?_
  · obtain ⟨h', held⟩ := hp'
    obtain ⟨⟨v, l⟩, hv⟩ := Option.isSome_iff_exists.1 (held absent)
    have unleased : l = 0 := h'.unleased _ _ _ hkey v l hv
    subst unleased
    obtain ⟨kv, rev, answered, hval⟩ := get_of_held h'.consistent p'.clock hv
    refine ⟨_, answered, kv, rfl, ?_⟩
    rw [hval]
    exact (h'.descriptors _ _ _ hkey v 0 hv).1 d hd rfl rfl
  obtain ⟨kv, _⟩ := read
  cases kv with
  | none =>
    refine ⟨fun _ pre => ?_⟩
    obtain ⟨_, _, found, _⟩ := pre
    cases found
  | some kv =>
    -- the stored descriptor reads, and hashes as this one
    refine .assume fun _ pre => ?_
    obtain ⟨_, kv', found, stored⟩ := pre
    cases found
    obtain ⟨stored, hread, hhash⟩ := stored
    dsimp only
    rw [hread]
    exact .ite (fun _ => .pure fun _ h => h.1) fun differs => absurd (by simp [hhash]) differs

theorem ensureDescriptors_plugging :
    Triple (Plugging ks ds lease) (ds.forM ensureDescriptor) (fun _ => Plugging ks ds lease)
      (fun _ => False) :=
  Triple.forM (fun _ => Plugging ks ds lease) fun _ _ hs =>
    ensureDescriptor_go_plugging (hs.subset List.mem_cons_self) 4

/-! ## Pending rows, endpoint keys, verified rows -/

/-- How a plug sees a descriptor key survives a change of rows that leaves the rows of the zones
outside the plug as they were. -/
theorem PlugView.of_rows {rows rows' : List ServiceRow} {service zone v : String}
    (h : PlugView ds rows service zone v)
    (same : ∀ r, (∀ d ∈ ds, ¬ (r.service = d.service ∧ r.zone = d.zone)) →
      (r ∈ rows' ↔ r ∈ rows)) : PlugView ds rows' service zone v := by
  refine ⟨h.1, ?_⟩
  by_cases mine : ∃ d ∈ ds, d.service = service ∧ d.zone = zone
  · exact .inl mine
  · -- a zone outside the plug keeps its rows
    refine .inr ((h.2.resolve_left mine).of_zone fun r hs hz => same r fun d hd hzone => ?_)
    exact mine ⟨d, hd, hzone.1 ▸ hs, hzone.2 ▸ hz⟩

/-- A plug under way whose zones have pending rows. -/
def PendingPlug (ks : KeySpace) (ds : List Descriptor) (lease : LeaseId) (p : Plane) : Prop :=
  Plugging ks ds lease p ∧ ∀ d ∈ ds, Index.PendingRows p.index.services d

/-- The pending rows: every zone of the plug gets rows active under its hash, and the other
zones keep theirs. -/
theorem Plugging.upsert :
    Triple (Plugging ks ds lease) (onIndexWrite (·.upsert ds false)) (fun _ => PendingPlug ks ds lease)
      (fun _ => False) := by
  refine .onIndexWrite (fun p ix h hup => ?_) fun p e h herr => ?_
  · rw [Index.upsert_ok (h.answers _), Except.ok.injEq] at hup
    subst hup
    split
    · rename_i empty
      rw [List.isEmpty_iff.1 empty]
      rw [List.isEmpty_iff.1 empty] at h
      exact ⟨h, nofun⟩
    · obtain ⟨other, pending⟩ := @Index.foldl_upsertRow_rows (p.index.clock + 1) false ds
        { p.index with clock := p.index.clock + 1 } h.zones
      refine ⟨⟨h.keyspace, h.consistent, h.unleased, h.live, ?_, ?_, h.checked, h.hashed, h.zones,
        fun k service zone hk v l hv => (h.descriptors k service zone hk v l hv).of_rows other⟩,
        pending⟩
      · exact fun _ => (Index.foldl_upsertRow_answers _ _).2 (h.answers _)
      · exact Index.Numbered.foldl_upsertRow ds ⟨h.numbered.sorted, h.numbered.positive,
          h.numbered.below, h.numbered.nextPositive⟩
  · rw [Index.upsert_ok (h.answers _)] at herr
    cases herr

/-- An endpoint write of a plug under way answers: it attaches at most the plug's lease, which
is live, and it puts no descriptor key. -/
theorem PendingPlug.endpoint {policy : AddressPolicy} {address value : String}
    (ha : policy.check address = .ok ()) {d : Descriptor} (hd : d ∈ ds) :
    Triple (PendingPlug ks ds lease) (ControlPlane.onStore
        (fun s now => s.txn now (endpointWrite (ks.nodeKey d.service d.zone address) value lease))
        "plug service fail")
      (fun _ => PendingPlug ks ds lease) (fun _ => False) := by
  refine .assume fun p₀ ⟨h₀, _⟩ => ?_
  have hz := h₀.checked d hd
  have noDescriptor : ∀ now t, PutsNoDescriptor ks
      ((Store.Call.txn now (endpointWrite (ks.nodeKey d.service d.zone address) value lease)).writesAt t) :=
    fun _ _ => .ite putsNoDescriptor_nil (putsNoDescriptor_endpoint hz ha)
  refine Plugging.onStore (c := fun now => .txn now (endpointWrite _ value lease))
    (Q := fun _ p => ∀ d ∈ ds, Index.PendingRows p.index.services d) (fun _ _ => rfl)
    (fun _ h => h.1) (fun p _ t k service zone hk v b hmem => absurd hmem (noDescriptor _ t k service zone hk v b))
    (fun now t => (noDescriptor now t).putsDetached) (fun s now hc live => live.txn hc _)
    fun p ⟨h, pending⟩ => ?_
  -- the write binds the plug's lease only when it is a lease, which is then live
  obtain ⟨r, answered⟩ : ∃ r, (p.store.txn p.clock
      (endpointWrite (ks.nodeKey d.service d.zone address) value lease)).1 = .ok r :=
    Store.txn_ok h.consistent fun k v id hmem => by
      simp only [endpointWrite, List.nil_append, List.mem_singleton, WriteOp.put.injEq,
        LeaseBinding.ofLease] at hmem
      obtain ⟨-, -, hb⟩ := hmem
      split at hb
      · cases hb
        exact h.live (by assumption)
      · cases hb
  exact ⟨r, answered, pending⟩

/-- Rows of a zone of the plug, pending under its hash, end verified by the marking, and then
agree with the descriptor the zone holds. -/
theorem ZoneIndexed.of_pending {ix ix' : Index} {d : Descriptor} {v : String} (hd : d ∈ ds)
    (pending : Index.PendingRows ix.services d) (hv : HashesAs v d) (adv : ix.Advances ix')
    (verified : Index.Verified ds ix'.services) : ZoneIndexed ix'.services d.service d.zone v := by
  obtain ⟨stored, hread, hhash⟩ := hv
  obtain ⟨⟨r, hr, hs, hz⟩, rows⟩ := pending
  refine ⟨stored, hread, ?_, fun r' hr' hs' hz' => ?_⟩
  · obtain ⟨r', hr', -, hs', hz', -⟩ := adv.image hr
    exact ⟨r', hr', hs'.trans hs, hz'.trans hz⟩
  · -- a row after the marking comes from a row of the zone, active under the plug's hash
    obtain ⟨r, hr, -, hs₀, hz₀, change⟩ := adv.mem hr'
    obtain ⟨active, hash⟩ := rows r hr (hs₀ ▸ hs') (hz₀ ▸ hz')
    rcases change with deleted | ⟨status, hash', -⟩
    · exact .inl deleted
    · have active' : r'.status = .active := status.trans active
      have hash'' : r'.contentHash = d.contentHash := hash'.trans hash
      exact .inr ⟨active', verified r' hr' d hd hs' hz' hash'' active', hash''.trans hhash.symm⟩

/-- Marking the rows verified ends the plug with the index agreeing with the store. -/
theorem PendingPlug.markVerified :
    Triple (PendingPlug ks ds lease) (onIndexWrite (·.markVerified ds))
      (fun _ => Framed ks (Agreeing ks)) (fun _ => False) := by
  refine .onIndexWrite (fun p ix ⟨h, pending⟩ answered => ?_) fun p e ⟨h, _⟩ herr => ?_
  · obtain ⟨adv, verified⟩ := Index.markVerified_advances answered
    refine ⟨h.keyspace, h.consistent, h.unleased, ⟨fun k service zone hk v l hv => ?_,
      fun _ => adv.answers.2 (h.answers _), adv.numbered h.numbered⟩⟩
    obtain ⟨hashes, mine | theirs⟩ := h.descriptors k service zone hk v l hv
    · obtain ⟨d, hd, rfl, rfl⟩ := mine
      exact ZoneIndexed.of_pending hd (pending d hd) (hashes d hd rfl rfl) adv verified
    · exact theirs.advances adv
  · obtain ⟨ix', answered⟩ : ∃ ix', p.index.markVerified ds = .ok ix' :=
      Index.markVerified_ok (h.answers _)
    rw [answered] at herr
    cases herr

/-- The registration of a plug whose descriptors agree answers every call, and ends with the
index agreeing with the store. -/
theorem writeRegistration_agrees {policy : AddressPolicy} {address value : String}
    (ha : policy.check address = .ok ()) :
    Triple (Plugging ks ds lease) (writeRegistration ds address value lease)
      (fun _ => Framed ks (Agreeing ks)) (fun _ => False) := by
  unfold writeRegistration
  refine .bind _ ensureDescriptors_plugging fun _ => ?_
  refine .bind _ Plugging.upsert fun _ => ?_
  refine .get_bind fun p₀ => .assume fun p ⟨⟨h, _⟩, hp⟩ => ?_
  subst hp
  rw [h.keyspace]
  -- each endpoint key is written under the live lease, and the pending rows stay
  refine .bind (fun _ => PendingPlug ks ds lease)
    ((Triple.forM (fun _ => PendingPlug ks ds lease) fun d rest hs => ?_).conseq
      (fun _ h => h.1) (fun _ _ h => h) fun _ h => h) fun _ => PendingPlug.markVerified
  exact .bind _ (PendingPlug.endpoint ha (hs.subset List.mem_cons_self)) fun _ => .pure fun _ h => h

/-! ## The whole plug -/

theorem PlugAgrees.apply {s : Store} {c : Store.Call} (h : PlugAgrees ks ds s) (hc : s.Consistent)
    (checked : ∀ d ∈ ds, checkServiceZone d.service d.zone = .ok ())
    (hput : ∀ t, PutsNoDescriptor ks (c.writesAt t)) : PlugAgrees ks ds (c.apply s) := by
  refine ⟨h.zones, fun d hd v l hv => ?_⟩
  rcases c.held_apply_cases hc hv with before | ⟨t, b, hmem, -⟩
  · exact h.stored d hd v l before
  · exact absurd hmem (hput t _ _ _ (ks.decode_descriptorKey (checked d hd)) v b)

/-- A plane where a plug of the prepared descriptors `ds`, which agree, has yet to pick its
lease. -/
structure PlugStart (ks : KeySpace) (ds : List Descriptor) (p : Plane) : Prop where
  framed : Framed ks (Agreeing ks) p
  agrees : PlugAgrees ks ds p.store
  checked : ∀ d ∈ ds, checkServiceZone d.service d.zone = .ok ()
  hashed : ∀ d ∈ ds, d.computeHash = d.contentHash

/-- A store call that puts no descriptor key keeps a plug ready to register, whether it answers
or not; when it answers, its answer and the plane it leaves meet `Q`. -/
theorem PlugStart.onStore {call : Store → Nat → Except StoreError α × Store} {ctx : String}
    {c : Nat → Store.Call} {Q : α → Plane → Prop} (hc : ∀ s now, (call s now).2 = (c now).apply s)
    (hput : ∀ now t, PutsNoDescriptor ks ((c now).writesAt t))
    (hQ : ∀ p, PlugStart ks ds p → ∀ a, (call p.store p.clock).1 = .ok a →
      Q a { p with store := (call p.store p.clock).2 }) :
    Triple (PlugStart ks ds) (ControlPlane.onStore call ctx) (fun a p => PlugStart ks ds p ∧ Q a p)
      (Framed ks (Agreeing ks)) := by
  refine Triple.onStore_keeps (fun p h => ?_) (fun _ after => after.framed) hQ
  obtain ⟨⟨hks, consistent, agreeing⟩, agrees, checked, hashed⟩ := h
  rw [hc]
  exact ⟨⟨hks, consistent.apply _, keptByRegistry_agreeing.call p _ consistent (hput p.clock) agreeing⟩,
    agrees.apply consistent checked (hput p.clock), checked, hashed⟩

/-- A plug ready to register, with its lease live if it has one, is a plug under way. -/
theorem PlugStart.plugging {p : Plane} (h : PlugStart ks ds p)
    (live : 0 < lease → Store.LeaseLive p.clock lease p.store) : Plugging ks ds lease p := by
  obtain ⟨⟨hks, consistent, unleased, agrees⟩, agreesPlug, checked, hashed⟩ := h
  refine ⟨hks, consistent, unleased, live, agrees.answers, agrees.numbered, checked, hashed,
    agreesPlug.zones, fun k service zone hk v l hv => ⟨fun d hd hs hz => ?_, .inr ?_⟩⟩
  · -- the key is the descriptor key of the plug's descriptor's zone
    have hkey : k = ks.descriptorKey d.service d.zone := by
      rw [hs, hz]
      exact eq_descriptorKey hk
    exact agreesPlug.stored d hd v l (hkey ▸ hv)
  · exact agrees.descriptors k service zone hk v l hv


theorem PlugStart.count {p : Plane} (h : PlugStart ks ds p) (m : Metrics) :
    PlugStart ks ds { p with metrics := m } :=
  ⟨h.framed.count keptByRegistry_agreeing m, h.agrees, h.checked, h.hashed⟩

theorem PlugStart.renew (id : LeaseId) :
    Triple (PlugStart ks ds) (renewLease id)
      (fun _ p => PlugStart ks ds p ∧ Store.LeaseLive p.clock id p.store)
      (Framed ks (Agreeing ks)) :=
  PlugStart.onStore (c := fun now => .keepAlive now id) (fun _ _ => rfl)
    (fun _ _ => putsNoDescriptor_nil) fun _ _ _ answered => Store.keepAlive_live answered

/-- A grant that answers leaves the lease it grants live. -/
theorem PlugStart.grant (ttl : Int) :
    Triple (PlugStart ks ds) (grantLease ttl)
      (fun g p => PlugStart ks ds p ∧ Store.LeaseLive p.clock g.id p.store)
      (Framed ks (Agreeing ks)) := by
  unfold grantLease
  refine .check_bind (fun _ => ?_) (fun _ h => h.framed)
  refine .bind _ (PlugStart.onStore (c := fun now => .grant now ttl)
    (Q := fun g p => Store.LeaseLive p.clock g.id p.store) (fun _ _ => rfl)
    (fun _ _ => putsNoDescriptor_nil) fun _ _ _ answered => Store.grant_live answered) fun g => ?_
  exact .bind (fun _ p => PlugStart ks ds p ∧ Store.LeaseLive p.clock g.id p.store)
    (.modify fun _ h => ⟨h.1.count _, h.2⟩) fun _ => .pure fun _ h => h

/-- Before a plug of `descs`: a plane whose index agrees with its store, where the prepared
descriptors agree with each other and with the descriptors stored for their zones. -/
def PlugReady (ks : KeySpace) (descs : List Descriptor) (p : Plane) : Prop :=
  Framed ks (Agreeing ks) p ∧
    ∀ ds, descs.mapM prepareDescriptor = .ok ds → PlugAgrees ks ds p.store

/-- A plug of descriptors that agree keeps the index in agreement with the store, whether it
registers or is refused before it writes. -/
theorem plugAll_agrees (descs : List Descriptor) (endpoint : Endpoint) (ttl : Int)
    (lease : LeaseId) :
    Triple (PlugReady ks descs) (plugAll descs endpoint ttl lease)
      (fun _ => Framed ks (Agreeing ks)) (Framed ks (Agreeing ks)) := by
  unfold plugAll
  refine .recorded ?_ (fun _ _ m h => h.count keptByRegistry_agreeing m)
    (fun _ m h => h.count keptByRegistry_agreeing m)
  refine .get_bind fun p₀ => .check_bind (fun ha => ?_) (fun _ h => h.1.1)
  extract_lets value checked
  have hchecked : ∀ u, Triple (PlugReady ks descs) (checked u) (fun _ => Framed ks (Agreeing ks))
      (Framed ks (Agreeing ks)) := by
    intro u
    refine .check_bind (fun _ => ?_) (fun _ h => h.1)
    refine .ofExcept_bind (fun ds hds => ?_) (fun _ h => h.1)
    extract_lets registered
    -- the registration fails nowhere, so the release of a fresh lease never runs
    have hregistered : ∀ x : LeaseGrant × Bool, Triple
        (fun p => PlugStart ks ds p ∧ (0 < x.1.id → Store.LeaseLive p.clock x.1.id p.store))
        (registered x) (fun _ => Framed ks (Agreeing ks)) (Framed ks (Agreeing ks)) := by
      rintro ⟨grant, fresh⟩
      refine .tryCatch (fun _ => False) (.bind _ ((writeRegistration_agrees ha).conseq
        (fun _ h => h.1.plugging h.2) (fun _ _ h => h) fun _ h => h) fun _ =>
          .pure fun _ h => h) fun _ => ⟨fun _ h => h.elim⟩
    have start : ∀ p, PlugReady ks descs p → PlugStart ks ds p := fun p h =>
      ⟨h.1, h.2 ds hds, mapM_prepareDescriptor_checked hds,
        mapM_prepareDescriptor_forall (fun _ _ => prepareDescriptor_hashed) hds⟩
    refine Triple.conseq ?_ start (fun _ _ h => h) fun _ h => h
    -- the lease: renewed, granted, or none
    exact .ite (fun _ => .bind _ (PlugStart.renew lease) fun remaining =>
        .pure_bind ((hregistered (⟨lease, remaining⟩, false)).conseq
          (fun _ h => ⟨h.1, fun _ => h.2⟩) (fun _ _ h => h) fun _ h => h))
      fun _ => .ite (fun _ => .bind _ (PlugStart.grant ttl) fun g =>
          .pure_bind ((hregistered (g, true)).conseq (fun _ h => ⟨h.1, fun _ => h.2⟩)
            (fun _ _ h => h) fun _ h => h))
        fun _ => .pure_bind ((hregistered (⟨0, ttl⟩, false)).conseq
          (fun _ h => ⟨h, fun pos => absurd pos (lt_irrefl 0)⟩) (fun _ _ h => h) fun _ h => h)
  refine .ite (fun _ => .throw_bind fun _ h => h.1.1) fun _ => ?_
  exact (hchecked ()).conseq (fun _ h => h.1) (fun _ _ h => h) fun _ h => h

end

end ControlPlane
