import ControlPlane.Proofs.Store.Entries
import ControlPlane.Proofs.Registry.Operations
import ControlPlane.Proofs.Registry.Frame
import ControlPlane.Proofs.Json.ReadBack

/-!
# Descriptor keys are written once

A descriptor key is written only by its creation: a transaction that puts it on the condition
that the key's modification revision reads 0, which holds of an absent key only. So, under any
interleaving of the registry's store calls, every descriptor key holds an entry of version 1,
not modified since its creation and held by no lease (`DescriptorsFresh`,
`Interleaved.descriptorsFresh`), and no registry call changes the entry a descriptor key holds
(`DescriptorsFresh.kept`).

A plug that answers has found, for each of its descriptors, a stored descriptor that hashes to
the descriptor's content hash: the one its own create wrote, which reads back as written, or one
it read and compared (`plugAll_observes`).
-/

namespace ControlPlane

open ControlPlane.Action

/-- An entry written once, when its key was created, under no lease. -/
structure KeyValue.WrittenOnce (e : KeyValue) : Prop where
  version : e.version = 1
  unmodified : e.modRevision = e.createRevision
  positive : 0 < e.modRevision
  unleased : e.lease = 0

/-- Every descriptor key holds an entry written once, with the text of a descriptor of the zone
the key names. -/
def DescriptorsFresh (ks : KeySpace) (s : Store) : Prop :=
  ∀ k service zone e, ks.decode k = some ⟨service, zone, .descriptor⟩ → s.find? k = some e →
    e.WrittenOnce ∧ ∃ d : Descriptor, e.value = d.text ∧ d.service = service ∧ d.zone = zone

/-- Writes put a descriptor key only to create it: the put is their only write, binds no lease,
writes the text of a descriptor of the key's zone, and is picked only where the key's
modification revision reads 0. -/
def CreatesOnly (ks : KeySpace) (ops : List WriteOp) (t : Store) : Prop :=
  ∀ k service zone, ks.decode k = some ⟨service, zone, .descriptor⟩ → ∀ v b, .put k v b ∈ ops →
    ops = [.put k v .detach] ∧ t.holds (.modRevisionEquals k 0) = true ∧
      ∃ d : Descriptor, v = d.text ∧ d.service = service ∧ d.zone = zone

/-- Writes delete no descriptor key. -/
def DeletesNoDescriptor (ks : KeySpace) (ops : List WriteOp) : Prop :=
  ∀ k service zone, ks.decode k = some ⟨service, zone, .descriptor⟩ → .delete k ∉ ops

section

variable {ks : KeySpace} {policy : AddressPolicy} {s t : Store} {c : Store.Call}

/-! ## What a registry call writes on a descriptor key -/

theorem PutsNoDescriptor.createsOnly {ops : List WriteOp} (h : PutsNoDescriptor ks ops) :
    CreatesOnly ks ops t :=
  fun k service zone hk v b hmem => absurd hmem (h k service zone hk v b)

/-- Whatever a registry call finds in the store, it puts a descriptor key only to create it. -/
theorem RegistryCall.createsOnly (hc : RegistryCall ks policy c) (t : Store) :
    CreatesOnly ks (c.writesAt t) t := by
  cases hc with
  | create now d hz =>
    intro k service zone hk v b hmem
    by_cases holds : t.holds (.modRevisionEquals (ks.descriptorKey d.service d.zone) 0) = true
    · -- the condition held: the create's one put
      have picked : (Store.Call.txn now (descriptorCreate (ks.descriptorKey d.service d.zone)
          d.text)).writesAt t = [.put (ks.descriptorKey d.service d.zone) d.text .detach] := by
        simp [Store.Call.writesAt, descriptorCreate, holds]
      rw [picked] at hmem ⊢
      obtain ⟨rfl, rfl, rfl⟩ : k = ks.descriptorKey d.service d.zone ∧ v = d.text ∧
          b = .detach := by simpa using hmem
      rw [ks.decode_descriptorKey hz] at hk
      cases hk
      exact ⟨rfl, holds, d, rfl, rfl, rfl⟩
    · -- the condition failed: no write
      have picked : (Store.Call.txn now (descriptorCreate (ks.descriptorKey d.service d.zone)
          d.text)).writesAt t = [] := by
        simp [Store.Call.writesAt, descriptorCreate, holds]
      rw [picked] at hmem
      cases hmem
  | get | read | grant | revoke | keepAlive | reap => exact putsNoDescriptor_nil.createsOnly
  | endpoint now service zone e lease hz ha =>
    exact (PutsNoDescriptor.ite putsNoDescriptor_nil (putsNoDescriptor_endpoint hz ha)).createsOnly
  | update now service zone e hz ha =>
    exact (PutsNoDescriptor.ite (putsNoDescriptor_endpoint hz ha) putsNoDescriptor_nil).createsOnly
  | unplug now service zone address hz ha =>
    exact (putsNoDescriptor_of_forall_delete (by simp [Store.Call.writesAt])).createsOnly
  | deleteDescriptors now kvs w hw =>
    obtain ⟨-, rfl⟩ := descriptorDeletes_eq_ok.1 hw
    exact (PutsNoDescriptor.ite (putsNoDescriptor_of_forall_delete (by simp))
      putsNoDescriptor_nil).createsOnly

/-- A key whose modification revision reads 0 has no entry, when every entry of it has a
positive one. -/
theorem Store.find?_eq_none_of_holds {k : String} (holds : t.holds (.modRevisionEquals k 0) = true)
    (hpos : ∀ e, t.find? k = some e → 0 < e.modRevision) : t.find? k = none := by
  cases ht : t.find? k with
  | none => rfl
  | some e =>
    have zero : e.modRevision = 0 := by simpa [Store.holds, ht] using holds
    exact absurd zero (ne_of_gt (hpos e ht))

/-! ## One call -/

/-- A registry call keeps every descriptor entry written once: an entry it leaves on a
descriptor key was there as it is, or is the one its create wrote on an absent key, at a
revision past 0. -/
theorem DescriptorsFresh.apply (h : DescriptorsFresh ks s) (hc : s.Consistent)
    (hr : 0 ≤ s.revision) (hcall : RegistryCall ks policy c) : DescriptorsFresh ks (c.apply s) := by
  intro k service zone e hk he
  obtain ⟨t, ops, pruned, applied⟩ := Store.Call.find_apply hc c
  rw [applied.find? k] at he
  by_cases put : ∃ v b, .put k v b ∈ ops
  · obtain ⟨v, b, hmem⟩ := put
    rcases applied.picked with rfl | rfl
    · cases hmem
    obtain ⟨only, holds, d, rfl, hs, hz⟩ := hcall.createsOnly t k service zone hk v b hmem
    -- an entry of the key on the pruned store was one of `s`, written at a positive revision
    have absent : t.find? k = none := Store.find?_eq_none_of_holds holds fun e' he' =>
      (h k service zone e' hk (pruned.kept k e' he')).1.positive
    have hpos : 0 < t.revision + 1 := Int.lt_add_one_iff.2 (hr.trans pruned.revision_le)
    rw [only, absent] at he
    simp only [List.foldl_cons, List.foldl_nil, WriteOp.entryAfter, if_pos, Option.map_none,
      Option.getD_none, Option.some.injEq] at he
    subst he
    exact ⟨⟨rfl, rfl, hpos, rfl⟩, d, rfl, hs, hz⟩
  · -- no put of the key: its entry is one the sweep kept
    have before : t.find? k = some e := by
      rcases applied.picked with rfl | rfl
      · exact he
      · exact Store.foldl_entryAfter_of_not_put (fun v b hmem => put ⟨v, b, hmem⟩) he
    exact h k service zone e hk (pruned.kept k e before)

/-- A registry call never overwrites a descriptor entry: an entry it leaves on a descriptor key
that held one is the same entry. -/
theorem DescriptorsFresh.kept (h : DescriptorsFresh ks s) (hc : s.Consistent)
    (hcall : RegistryCall ks policy c) {k service zone : String} {e e' : KeyValue}
    (hk : ks.decode k = some ⟨service, zone, .descriptor⟩) (he : s.find? k = some e)
    (he' : (c.apply s).find? k = some e') : e' = e := by
  obtain ⟨t, ops, pruned, applied⟩ := Store.Call.find_apply hc c
  have written := (h k service zone e hk he).1
  -- the sweep keeps the entry, held by no lease
  have ht : t.find? k = some e := pruned.unleased k e he written.unleased
  -- a create would need the key absent
  have noPut : ∀ v b, .put k v b ∉ ops := by
    intro v b hmem
    rcases applied.picked with rfl | rfl
    · cases hmem
    obtain ⟨-, holds, -⟩ := hcall.createsOnly t k service zone hk v b hmem
    have absent := Store.find?_eq_none_of_holds holds fun e'' he'' => by
      rw [ht] at he''
      cases he''
      exact written.positive
    rw [ht] at absent
    cases absent
  rw [applied.find? k] at he'
  have before := Store.foldl_entryAfter_of_not_put noPut he'
  rw [ht] at before
  exact (Option.some.inj before).symm

/-- Every store that registry calls reach from an empty one, in any order, has its descriptor
entries written once. -/
theorem Interleaved.descriptorsFresh (h : Interleaved ks policy s) : DescriptorsFresh ks s := by
  -- the revision stays past 0, which the creates need
  have reach := h.reachable
  induction h with
  | make historyLimit channelCapacity => exact fun _ _ _ _ _ held => nomatch held
  | call hcall h ih =>
    have before := h.reachable
    exact (ih before).apply before.consistent (le_trans (by decide) before.one_le_revision) hcall

/-! ## What a plug finds -/

/-- The store holds, at the descriptor key of `d`'s zone, a descriptor that hashes to `d`'s
content hash. -/
def Observed (ks : KeySpace) (d : Descriptor) (s : Store) : Prop :=
  ∃ e stored, s.find? (ks.descriptorKey d.service d.zone) = some e ∧
    Descriptor.read? e.value = some stored ∧ stored.computeHash = d.contentHash

/-- A registry call that deletes no descriptor key keeps a descriptor found: the entry stays, as
it was. -/
theorem Observed.apply {d : Descriptor} (h : Observed ks d s) (fresh : DescriptorsFresh ks s)
    (hc : s.Consistent) (hcall : RegistryCall ks policy c)
    (hz : checkServiceZone d.service d.zone = .ok ())
    (hdel : ∀ t, DeletesNoDescriptor ks (c.writesAt t)) : Observed ks d (c.apply s) := by
  obtain ⟨e, stored, he, hread, hhash⟩ := h
  have hk := ks.decode_descriptorKey hz
  obtain ⟨t, ops, pruned, applied⟩ := Store.Call.find_apply hc c
  -- the key keeps an entry: the sweep leaves it, and no write deletes it
  have ht := pruned.unleased _ e he (fresh _ _ _ e hk he).1.unleased
  have held : ((c.apply s).find? (ks.descriptorKey d.service d.zone)).isSome := by
    rw [applied.find? _]
    rcases applied.picked with rfl | rfl
    · simp [ht]
    · exact Store.foldl_entryAfter_isSome (hdel t _ _ _ hk) (by simp [ht])
  obtain ⟨e', he'⟩ := Option.isSome_iff_exists.1 held
  obtain rfl := fresh.kept hc hcall hk he he'
  exact ⟨e', stored, he', hread, hhash⟩

/-- A plane of keyspace `ks` whose store is consistent and past revision 0, has its descriptor
entries written once, and holds a descriptor found for each checked descriptor in `P`. -/
structure Observing (ks : KeySpace) (P : Descriptor → Prop) (p : Plane) : Prop where
  keyspace : p.keyspace = ks
  consistent : p.store.Consistent
  revision : 0 ≤ p.store.revision
  fresh : DescriptorsFresh ks p.store
  checked : ∀ d, P d → checkServiceZone d.service d.zone = .ok ()
  observed : ∀ d, P d → Observed ks d p.store

/-- One registry call that deletes no descriptor key keeps what a plug found. -/
theorem Observing.apply {P : Descriptor → Prop} {p : Plane} (h : Observing ks P p)
    (hcall : RegistryCall ks policy c) (hdel : ∀ t, DeletesNoDescriptor ks (c.writesAt t)) :
    Observing ks P { p with store := c.apply p.store } where
  keyspace := h.keyspace
  consistent := h.consistent.apply c
  revision := h.revision.trans (Store.Call.revision_le_apply h.consistent c)
  fresh := h.fresh.apply h.consistent h.revision hcall
  checked := h.checked
  observed d hd := (h.observed d hd).apply h.fresh h.consistent hcall (h.checked d hd) hdel

/-- A registry call, at the plane's clock, that deletes no descriptor key keeps what a plug
found, whether it answers or not; when it answers, its answer and the plane it leaves meet
`Q`. -/
theorem Observing.onStore {α : Type} {pre : Plane → Prop} {P : Descriptor → Prop}
    {call : Store → Nat → Except StoreError α × Store} {ctx : String} {c : Nat → Store.Call}
    {Q : α → Plane → Prop} (hc : ∀ s now, (call s now).2 = (c now).apply s)
    (hreg : ∀ now, RegistryCall ks policy (c now))
    (hdel : ∀ now t, DeletesNoDescriptor ks ((c now).writesAt t))
    (hpre : ∀ p, pre p → Observing ks P p)
    (hQ : ∀ p, pre p → ∀ a, (call p.store p.clock).1 = .ok a →
      Q a { p with store := (call p.store p.clock).2 }) :
    Triple pre (ControlPlane.onStore call ctx) (fun a p => Observing ks P p ∧ Q a p)
      (Observing ks P) := by
  refine Triple.onStore_keeps (fun p hp => ?_) (fun _ h => h) hQ
  rw [hc]
  exact (hpre p hp).apply (hreg p.clock) (hdel p.clock)

theorem deletesNoDescriptor_nil : DeletesNoDescriptor ks [] := nofun

theorem deletesNoDescriptor_create {now : Nat} {key v : String} (t : Store) :
    DeletesNoDescriptor ks ((Store.Call.txn now (descriptorCreate key v)).writesAt t) := by
  intro k _ _ _ hmem
  simp only [Store.Call.writesAt, descriptorCreate] at hmem
  split_ifs at hmem <;> simp at hmem

/-- A create that answers that it wrote leaves its text on the key. -/
theorem create_written {now : Nat} {key v : String} {rev : Revision} (hc : s.Consistent)
    (h : (s.txn now (descriptorCreate key v)).1 = .ok (true, rev)) :
    ∃ e, (s.txn now (descriptorCreate key v)).2.find? key = some e ∧ e.value = v := by
  obtain ⟨holds, -, applied⟩ := Store.txn_applied hc h
  -- the conditions held, so the create's one put was applied
  have picked : (Store.Call.txn now (descriptorCreate key v)).writesAt (s.expire now) =
      [.put key v .detach] := by
    simp only [Store.Call.writesAt]
    exact if_pos holds.symm
  rw [applied.find?, picked]
  simp only [List.foldl_cons, List.foldl_nil, WriteOp.entryAfter, if_true]
  exact ⟨_, rfl, rfl⟩

theorem get_found {now : Nat} {key : String} {a : Option KeyValue × Revision}
    (h : (s.get now key).1 = .ok a) : ∀ kv, a.1 = some kv → (s.get now key).2.find? key = some kv := by
  intro kv found
  simp only [Store.get_eq, Except.ok.injEq] at h
  subst h
  rw [Store.get_eq, Store.find?_publish]
  exact found

theorem Observing.mono {P Q : Descriptor → Prop} {p : Plane} (h : Observing ks P p)
    (hQ : ∀ d, Q d → P d) : Observing ks Q p :=
  ⟨h.keyspace, h.consistent, h.revision, h.fresh, fun d hd => h.checked d (hQ d hd),
    fun d hd => h.observed d (hQ d hd)⟩

/-- One attempt at a descriptor with its hash filled in: it answers only when it created the
key with the descriptor's text, which reads back with that hash, or read a stored descriptor
with that hash. -/
theorem ensureDescriptor_go_observes {P : Descriptor → Prop} (d : Descriptor)
    (hd : checkServiceZone d.service d.zone = .ok ()) (hhash : d.computeHash = d.contentHash) :
    ∀ n, Triple (Observing ks P) (ensureDescriptor.go d n)
      (fun _ => Observing ks fun d' => P d' ∨ d' = d) (Observing ks P)
  | 0 => .throw fun _ h => h
  | n + 1 => by
    -- what is found for `d` joins what was found before
    have found : ∀ p, Observing ks P p → Observed ks d p.store →
        Observing ks (fun d' => P d' ∨ d' = d) p := by
      intro p h hd'
      refine ⟨h.keyspace, h.consistent, h.revision, h.fresh, ?_, ?_⟩
      · rintro d' (h' | rfl)
        · exact h.checked d' h'
        · exact hd
      · rintro d' (h' | rfl)
        · exact h.observed d' h'
        · exact hd'
    unfold ensureDescriptor.go
    refine .get_bind fun p₀ => .assume fun p start => ?_
    obtain ⟨hp, same⟩ := start
    subst same
    rw [hp.keyspace]
    -- the create: when it wrote, the key holds the descriptor's own text
    refine .bind (fun r p' => Observing ks P p' ∧ (r.1 = true → Observed ks d p'.store))
      (Observing.onStore (c := fun now => .txn now (descriptorCreate _ d.text)) (fun _ _ => rfl)
        (fun now => (.create now d hd : RegistryCall _ p.policy _))
        (fun _ t => deletesNoDescriptor_create t) (fun _ h => h.1)
        fun p' hp' a ha created => ?_) fun written => ?_
    · obtain ⟨_, rev⟩ := a
      subst created
      obtain ⟨e, he, hv⟩ := create_written hp'.1.consistent ha
      exact ⟨e, d, he, by rw [hv, Descriptor.read?_text], hhash⟩
    obtain ⟨created, _⟩ := written
    refine .ite (fun hcreated => .pure fun p' h => found p' h.1 (h.2 hcreated)) fun _ => ?_
    -- the read: what it finds is the key's entry
    refine .bind (fun r p' => Observing ks P p' ∧
        ∀ kv, r.1 = some kv → p'.store.find? (ks.descriptorKey d.service d.zone) = some kv)
      (Observing.onStore (c := fun now => .get now (ks.descriptorKey d.service d.zone))
        (fun _ _ => rfl) (fun now => (.get now _ : RegistryCall _ p.policy _))
        (fun _ _ => deletesNoDescriptor_nil) (fun _ h => h.1)
        fun p' _ a ha => get_found ha) fun read => ?_
    obtain ⟨kv, _⟩ := read
    dsimp only
    cases kv with
    | none =>
      exact (ensureDescriptor_go_observes d hd hhash n).conseq (fun _ h => h.1)
        (fun _ _ h => h) fun _ h => h
    | some kv =>
      -- a stored descriptor must hash as this one
      dsimp only
      split
      · exact .throw fun _ h => h.1
      · rename_i stored hread
        refine .ite (fun same => .pure fun p' h => found p' h.1 ⟨kv, stored, h.2 kv rfl, hread, ?_⟩)
          fun _ => .throw fun _ h => h.1
        simpa using same

/-- Ensuring descriptors with their hashes filled in, one after another, finds a descriptor
for each. -/
theorem ensureDescriptors_observe {P : Descriptor → Prop} {descs : List Descriptor}
    (hds : ∀ d ∈ descs, checkServiceZone d.service d.zone = .ok ())
    (hhash : ∀ d ∈ descs, d.computeHash = d.contentHash) :
    Triple (Observing ks P) (descs.forM ensureDescriptor)
      (fun _ => Observing ks fun d => P d ∨ d ∈ descs) (Observing ks P) := by
  -- the loop has found a descriptor for each one it has passed
  refine (Triple.forM (fun rest => Observing ks fun d => P d ∨ (d ∈ descs ∧ d ∉ rest))
      fun b rest hs => ?_).conseq
    (fun _ h => h.mono fun d hd => by rcases hd with hd | hd; exacts [hd, absurd hd.1 hd.2])
    (fun _ _ h => h.mono fun d hd => by
      rcases hd with hd | hd
      · exact .inl hd
      · exact .inr ⟨hd, List.not_mem_nil⟩) fun _ h => h
  have hb : b ∈ descs := hs.subset List.mem_cons_self
  refine (ensureDescriptor_go_observes b (hds b hb) (hhash b hb) maxAttempts).conseq
    (fun _ h => h) (fun _ _ h => h.mono fun d hd => ?_) fun _ h => h.mono fun d hd => ?_
  · -- a descriptor passed now or before
    by_cases hdb : d = b
    · exact .inr hdb
    · rcases hd with hd | ⟨hd, hrest⟩
      · exact .inl (.inl hd)
      · exact .inl (.inr ⟨hd, by simp [hdb, hrest]⟩)
  · exact .inl hd

/-- What a plug found stays found through calls that change neither its store nor its
keyspace. -/
theorem Observing.of_store {P : Descriptor → Prop} {p p' : Plane} (h : Observing ks P p)
    (hs : p'.store = p.store) (hk : p'.keyspace = p.keyspace) : Observing ks P p' := by
  obtain ⟨keyspace, consistent, revision, fresh, checked, observed⟩ := h
  rw [← hs, ← hk] at *
  exact ⟨keyspace, consistent, revision, fresh, checked, observed⟩

theorem Triple.ends {α : Type} {pre : Plane → Prop} (act : Action α) :
    Triple pre act (fun _ _ => True) (fun _ => True) :=
  ⟨fun p _ => by rcases act.exec p with ⟨_ | _, _⟩ <;> trivial⟩

/-- A registration that answers has found a descriptor for each of its descriptors: after
ensuring them, it writes rows and endpoint keys only. -/
theorem writeRegistration_observes {descs : List Descriptor} {e : Endpoint} {lease : LeaseId}
    (hds : ∀ d ∈ descs, checkServiceZone d.service d.zone = .ok ())
    (hhash : ∀ d ∈ descs, d.computeHash = d.contentHash) (ha : policy.check e.address = .ok ()) :
    Triple (Observing ks fun _ => False) (writeRegistration descs e.address e.text lease)
      (fun _ => Observing ks (· ∈ descs)) (fun _ => True) := by
  unfold writeRegistration
  refine .bind (fun _ => Observing ks (· ∈ descs)) ((ensureDescriptors_observe hds hhash).conseq
    (fun _ h => h) (fun _ _ h => h.mono fun d hd => .inr hd) fun _ _ => trivial) fun _ => ?_
  -- the rows: the store stays as it is
  refine .bind (fun _ => Observing ks (· ∈ descs))
    (.onIndex (fun _ _ _ h _ => h.of_store rfl rfl) fun _ _ _ _ => trivial) fun _ => ?_
  refine .get_bind fun p₀ => .assume fun p ⟨h, hp⟩ => ?_
  subst hp
  rw [h.keyspace]
  -- each endpoint write puts an endpoint key and deletes nothing
  refine .bind (fun _ => Observing ks (· ∈ descs))
    ((Triple.forM (fun _ => Observing ks (· ∈ descs)) (fun b rest hs => ?_) :
      Triple _ _ _ fun _ => True).conseq (fun _ h => h.1) (fun _ _ h => h) fun _ h => h)
    fun _ => .onIndex (fun _ _ _ h _ => h.of_store rfl rfl) fun _ _ _ _ => trivial
  have hb : b ∈ descs := hs.subset List.mem_cons_self
  have noDelete : ∀ now t, DeletesNoDescriptor ks ((Store.Call.txn now
      (endpointWrite (ks.nodeKey b.service b.zone e.address) e.text lease)).writesAt t) := by
    intro now t k _ _ _ hmem
    simp only [Store.Call.writesAt, endpointWrite] at hmem
    split_ifs at hmem <;> simp at hmem
  exact .bind _ ((Observing.onStore (c := fun now => .txn now (endpointWrite _ e.text lease))
      (Q := fun _ _ => True) (fun _ _ => rfl) (fun now => .endpoint now _ _ e lease (hds b hb) ha)
      noDelete (fun _ h => h) fun _ _ _ _ => trivial).conseq (fun _ h => h) (fun _ _ h => h)
        fun _ _ => trivial) fun _ => .pure fun _ h => h.1

theorem renewLease_observes {P : Descriptor → Prop} (id : LeaseId) :
    Triple (Observing ks P) (renewLease id) (fun _ => Observing ks P) (fun _ => True) :=
  (Observing.onStore (c := fun now => .keepAlive now id) (Q := fun _ _ => True)
    (fun _ _ => rfl) (fun now => (.keepAlive now id : RegistryCall ks {} _))
    (fun _ _ => deletesNoDescriptor_nil)
    (fun _ h => h) fun _ _ _ _ => trivial).conseq (fun _ h => h) (fun _ _ h => h.1)
      fun _ _ => trivial

/-- A grant writes no key. -/
theorem grantLease_observes {P : Descriptor → Prop} (ttl : Int) :
    Triple (Observing ks P) (grantLease ttl) (fun _ => Observing ks P) (fun _ => True) := by
  unfold grantLease
  refine .check_bind (fun _ => ?_) fun _ _ => trivial
  refine .bind _ ((Observing.onStore (c := fun now => .grant now ttl)
    (Q := fun _ _ => True) (fun _ _ => rfl) (fun now => (.grant now ttl : RegistryCall ks {} _))
    (fun _ _ => deletesNoDescriptor_nil) (fun _ h => h) fun _ _ _ _ => trivial).conseq
      (fun _ h => h) (fun _ _ h => h.1) fun _ _ => trivial) fun g => ?_
  exact .bind (fun _ => Observing ks P) (.modify fun _ h => h.of_store rfl rfl)
    fun _ => .pure fun _ h => h

/-- A plug that answers has found, for each of its prepared descriptors, a stored descriptor
that hashes to the descriptor's content hash. -/
theorem plugAll_observes (descs : List Descriptor) (endpoint : Endpoint) (ttl : Int)
    (lease : LeaseId) :
    Triple (Observing ks fun _ => False) (plugAll descs endpoint ttl lease)
      (fun _ p => ∀ ds, descs.mapM prepareDescriptor = .ok ds → ∀ d ∈ ds, Observed ks d p.store)
      (fun _ => True) := by
  unfold plugAll
  refine .recorded ?_ (fun _ _ _ h => h) fun _ _ _ => trivial
  refine .get_bind fun p₀ => .check_bind (fun ha => ?_) fun _ _ => trivial
  extract_lets value checked
  have hchecked : ∀ u, Triple (Observing ks fun _ => False) (checked u)
      (fun _ p => ∀ ds, descs.mapM prepareDescriptor = .ok ds → ∀ d ∈ ds, Observed ks d p.store)
      (fun _ => True) := by
    intro u
    refine .check_bind (fun _ => ?_) fun _ _ => trivial
    refine .ofExcept_bind (fun ds hds => ?_) fun _ _ => trivial
    extract_lets registered
    -- the registration finds the prepared descriptors; its failure path throws
    have hregistered : ∀ x, Triple (Observing ks fun _ => False) (registered x)
        (fun _ p => ∀ ds', descs.mapM prepareDescriptor = .ok ds' → ∀ d ∈ ds',
          Observed ks d p.store) (fun _ => True) := by
      rintro ⟨grant, fresh⟩
      refine .tryCatch (fun _ => True) (.bind _ (writeRegistration_observes
        (mapM_prepareDescriptor_checked hds)
        (mapM_prepareDescriptor_forall (fun _ _ => prepareDescriptor_hashed) hds) ha) fun _ =>
          .pure fun p h ds' hds' d hd => ?_) fun _ => ?_
      · rw [hds] at hds'
        cases hds'
        exact h.observed d hd
      · extract_lets rethrow
        exact .ite (fun _ => .bind _ (Triple.ends _) fun _ => .throw fun _ _ => trivial) fun _ =>
          .throw fun _ _ => trivial
    -- the lease: renewed, granted, or none
    exact .ite (fun _ => .bind _ (renewLease_observes lease) fun remaining =>
        .pure_bind (hregistered (⟨lease, remaining⟩, false)))
      fun _ => .ite (fun _ => .bind _ (grantLease_observes ttl) fun g =>
          .pure_bind (hregistered (g, true)))
        fun _ => .pure_bind (hregistered (⟨0, ttl⟩, false))
  refine .ite (fun _ => .throw_bind fun _ _ => trivial) fun _ => ?_
  exact (hchecked ()).conseq (fun _ h => h.1) (fun _ _ h => h) fun _ h => h


theorem Interleaved.observing {p : Plane} (hk : p.keyspace = ks) (h : Interleaved ks policy p.store) :
    Observing ks (fun _ => False) p where
  keyspace := hk
  consistent := h.reachable.consistent
  revision := le_trans (by decide) h.reachable.one_le_revision
  fresh := h.descriptorsFresh
  checked := fun _ f => f.elim
  observed := fun _ f => f.elim

end

end ControlPlane
