import ControlPlane.Proofs.Store.AtRest
import ControlPlane.Proofs.Index.Stamps
import ControlPlane.Proofs.Registry.Listed
import ControlPlane.Proofs.Registry.Indexed
import ControlPlane.Proofs.Registry.Descriptors

/-!
# What a plug that answers leaves

A plug that answers has run every step of its registration to the end, over a store that
registry calls reach, with one lease picked before the first write: none, a renewal at the
plane's moment, or a grant at it. Each step keeps what the steps before it set up, because every
call of the plug runs at the same moment and its lease is not due then:

1. `Enrolled`: the store is reached by registry calls and the lease was renewed at the moment;
2. the descriptors: each is found, the store's descriptor of its zone hashing as it does;
3. the rows: each zone of the plug has rows pending under its hash, stamped by the plug;
4. the endpoint keys: each holds the endpoint's text under the lease, whatever the conditions
   of its write found (`Store.txn_endpointWrite_held`), and later sweeps keep it;
5. the marking: each zone is settled, its rows active, verified and under its hash.

`plugAll_plugged` is the whole of it: the plane a plug leaves is `Plugged`, at rest, with every
endpoint key, descriptor and row of the plug in place.
-/

namespace ControlPlane

open ControlPlane.Action

/-! ## The endpoint write -/

namespace Store

/-- An endpoint write that answers leaves its key holding the value under the lease, whichever
branch its conditions picked, and every other key as the sweep left it. -/
theorem txn_endpointWrite_held {s : Store} (hc : s.Consistent) {now : Nat} {key value : String}
    {lease : LeaseId} (hl : 0 ≤ lease) {r : Bool × Revision}
    (h : (s.txn now (endpointWrite key value lease)).1 = .ok r) (k : String) :
    (s.txn now (endpointWrite key value lease)).2.held k =
      if k = key then some (value, lease) else (s.expire now).held k := by
  obtain ⟨ok, rev⟩ := r
  obtain ⟨hok, after⟩ := txn_held hc h
  rw [after k]
  cases ok with
  | true =>
    -- the key held the value under the lease already, and nothing was written
    simp only [if_true, endpointWrite, List.foldl_nil]
    split
    · rename_i hk
      subst hk
      simp only [endpointWrite, List.all_cons, List.all_nil, Bool.and_true] at hok
      cases hf : (s.expire now).find? k with
      | none => simp [holds, hf] at hok
      | some e =>
        simp only [holds, hf, Option.map_some, Option.getD_some] at hok
        simp only [held, hf, Option.map_some, Option.some.injEq, Prod.mk.injEq]
        have found := hok.symm
        simp only [Bool.and_eq_true, beq_iff_eq] at found
        exact found
    · rfl
  | false =>
    -- the put binds the lease when it is one, and no lease otherwise
    simp only [Bool.false_eq_true, if_false, endpointWrite, List.foldl_cons, List.foldl_nil,
      WriteOp.heldAfter]
    split
    · rename_i hk
      subst hk
      by_cases pos : 0 < lease
      · simp [LeaseBinding.ofLease, pos, LeaseBinding.target]
      · have zero : lease = 0 := Int.le_antisymm (Int.not_lt.1 pos) hl
        subst zero
        simp [LeaseBinding.ofLease, LeaseBinding.target]
    · rfl

end Store

/-! ## A plug on its way -/

/-- A plug that has picked its lease, on its way: the plane keeps its keyspace and address
policy, its store is one that registry calls reach, and the lease, unless there is none, was
renewed at the plane's moment. -/
structure Enrolled (ks : KeySpace) (policy : AddressPolicy) (lease : LeaseId) (p : Plane) :
    Prop where
  keyspace : p.keyspace = ks
  policy_eq : p.policy = policy
  reached : Interleaved ks policy p.store
  lease : lease = 0 ∨ Store.RenewedAt p.clock lease p.store

section

variable {ks : KeySpace} {policy : AddressPolicy} {lease : LeaseId} {α : Type} {p : Plane}

theorem Enrolled.consistent (h : Enrolled ks policy lease p) : p.store.Consistent :=
  h.reached.reachable.consistent

theorem Enrolled.live (h : Enrolled ks policy lease p) :
    lease = 0 ∨ Store.LeaseLive p.clock lease p.store :=
  h.lease.imp_right Store.RenewedAt.live

theorem Enrolled.nonneg (h : Enrolled ks policy lease p) : 0 ≤ lease := by
  rcases h.live with rfl | ⟨l, hl, rfl, -⟩
  · exact le_refl 0
  · exact Int.le_trans (by decide) (h.consistent.lease_ids l hl).1

theorem Enrolled.of_store {p' : Plane} (h : Enrolled ks policy lease p) (hs : p'.store = p.store)
    (hk : p'.keyspace = p.keyspace) (hp : p'.policy = p.policy) (hclock : p'.clock = p.clock) :
    Enrolled ks policy lease p' := by
  obtain ⟨keyspace, policy_eq, reached, renewed⟩ := h
  rw [← hs, ← hk, ← hp, ← hclock] at *
  exact ⟨keyspace, policy_eq, reached, renewed⟩

/-- A registry call at the plane's moment that keeps a renewed lease renewed keeps a plug on its
way. -/
theorem Enrolled.apply (h : Enrolled ks policy lease p) {c : Store.Call}
    (hreg : RegistryCall ks policy c)
    (hrenew : lease ≠ 0 → ∀ s, s.Consistent → Store.RenewedAt p.clock lease s →
      Store.RenewedAt p.clock lease (c.apply s)) :
    Enrolled ks policy lease { p with store := c.apply p.store } := by
  refine ⟨h.keyspace, h.policy_eq, h.reached.call hreg, ?_⟩
  by_cases none : lease = 0
  · exact .inl none
  · exact .inr (hrenew none _ h.consistent (h.lease.resolve_left none))

/-- A registry call of a plug on its way keeps it on its way; when it answers, its answer and
the plane it leaves meet `Q`. -/
theorem Enrolled.onStore {pre : Plane → Prop} {call : Store → Nat → Except StoreError α × Store}
    {ctx : String} {c : Nat → Store.Call} {Q : α → Plane → Prop}
    (hc : ∀ s now, (call s now).2 = (c now).apply s)
    (hpre : ∀ p, pre p → Enrolled ks policy lease p)
    (hreg : ∀ now, RegistryCall ks policy (c now))
    (hrenew : lease ≠ 0 → ∀ s now, s.Consistent → Store.RenewedAt now lease s →
      Store.RenewedAt now lease ((c now).apply s))
    (hQ : ∀ p, pre p → ∀ a, (call p.store p.clock).1 = .ok a →
      Q a { p with store := (call p.store p.clock).2 }) :
    Triple pre (ControlPlane.onStore call ctx) (fun a p => Enrolled ks policy lease p ∧ Q a p)
      (fun _ => True) := by
  refine Triple.onStore_keeps (fun p hp => ?_) (fun _ _ => trivial) hQ
  rw [hc]
  exact (hpre p hp).apply (hreg p.clock) fun ne s hs r => hrenew ne s p.clock hs r

/-! ## The lease -/

theorem renewLease_enrolled (id : LeaseId) :
    Triple (Enrolled ks policy 0) (renewLease id) (fun _ => Enrolled ks policy id) (fun _ => True) :=
  (Enrolled.onStore (c := fun now => .keepAlive now id)
    (Q := fun _ p => Store.RenewedAt p.clock id p.store) (fun _ _ => rfl) (fun _ h => h)
    (fun now => .keepAlive now id) (fun ne => absurd rfl ne) fun _ _ _ answered =>
      Store.keepAlive_renewedAt answered).conseq (fun _ h => h)
    (fun _ _ h => ⟨h.1.keyspace, h.1.policy_eq, h.1.reached, .inr h.2⟩) fun _ h => h

/-- A grant that answers leaves the lease it grants renewed at the moment. -/
theorem grantLease_enrolled (ttl : Int) :
    Triple (Enrolled ks policy 0) (grantLease ttl) (fun g => Enrolled ks policy g.id)
      (fun _ => True) := by
  unfold grantLease
  refine .check_bind (fun _ => ?_) fun _ _ => trivial
  refine .bind _ (Enrolled.onStore (c := fun now => .grant now ttl)
    (Q := fun g p => Store.RenewedAt p.clock g.id p.store) (fun _ _ => rfl) (fun _ h => h)
    (fun now => .grant now ttl) (fun ne => absurd rfl ne) fun _ _ _ answered =>
      Store.grant_renewedAt answered) fun g => ?_
  refine .bind (fun _ => Enrolled ks policy g.id) (.modify fun p h => ?_) fun _ =>
    .pure fun _ h => h
  exact ⟨h.1.keyspace, h.1.policy_eq, h.1.reached, .inr h.2⟩

/-! ## The descriptors -/

/-- Every attempt at a descriptor makes registry calls only, at the plane's moment. -/
theorem ensureDescriptors_enrolled {ds : List Descriptor}
    (hds : ∀ d ∈ ds, checkServiceZone d.service d.zone = .ok ()) :
    Triple (Enrolled ks policy lease) (ds.forM ensureDescriptor)
      (fun _ => Enrolled ks policy lease) (Enrolled ks policy lease) :=
  Triple.forM (fun _ => Enrolled ks policy lease) fun d _ hs =>
    ensureDescriptor_go_keeps d (fun _ h => h.keyspace)
      (fun p h => h.apply (.create p.clock d (hds d (hs.subset List.mem_cons_self)))
        fun _ _ hc r => r.txn hc _)
      (fun p h => h.apply (.get p.clock _) fun _ _ hc r => r.get hc _) maxAttempts

/-- Descriptors of one zone that the store's descriptor of the zone hashes as carry one hash. -/
theorem zonesAgree_of_observed {ds : List Descriptor} {s : Store}
    (h : ∀ d ∈ ds, Observed ks d s) : ZonesAgree ds := by
  intro d hd d' hd' hs hz
  obtain ⟨e, stored, he, hread, hhash⟩ := h d hd
  obtain ⟨e', stored', he', hread', hhash'⟩ := h d' hd'
  -- both read the one entry of the zone's descriptor key
  rw [hs, hz, he] at he'
  cases he'
  rw [hread] at hread'
  cases hread'
  rw [← hhash, ← hhash']

/-! ## The rows -/

/-- The rows of a plug written and not yet marked: the index answering the upsert, each zone of
the plug with rows pending under its hash, and every row stamped by the plug. -/
structure RowsWritten (ds : List Descriptor) (ix : Index) : Prop where
  upserts : ix.Answers .upsertPending
  pending : ∀ d ∈ ds, Index.PendingRows ix.services d
  stamped : Index.Stamped ds ix.services

/-- The rows of a plug once marked: the index answering the upsert and the marking, each zone of
the plug settled, and every row stamped by the plug. -/
structure RowsSettled (ds : List Descriptor) (ix : Index) : Prop where
  upserts : ix.Answers .upsertPending
  marks : ix.Answers .markVerified
  settled : ∀ d ∈ ds, Index.ZoneSettled ix.services d
  stamped : Index.Stamped ds ix.services

theorem RowsWritten.upsert {ds : List Descriptor} {ix ix' : Index} (agree : ZonesAgree ds)
    (hne : ds ≠ []) (h : ix.upsert ds false = .ok ix') : RowsWritten ds ix' := by
  rcases Index.upsert_eq_ok h with ⟨rfl, -⟩ | ⟨upserts, rfl⟩
  · exact absurd rfl hne
  exact ⟨(Index.foldl_upsertRow_answers _ _).2 upserts, (Index.foldl_upsertRow_rows ds _ agree).2,
    Index.Stamped.foldl_upsertRow ds (Index.stamped_nil _)⟩

theorem RowsWritten.markVerified {ds : List Descriptor} {ix ix' : Index} (h : RowsWritten ds ix)
    (hne : ds ≠ []) (hm : ix.markVerified ds = .ok ix') : RowsSettled ds ix' :=
  ⟨(Index.markVerified_advances hm).1.answers.2 h.upserts,
    (Index.markVerified_advances hm).1.answers.2 (Index.answers_of_markVerified hne hm),
    fun d hd => (h.pending d hd).settled hd hm, h.stamped.markVerified hm⟩

/-! ## The registration -/

/-- What a plug of the prepared descriptors `ds` that answered leaves: on its way with its
lease, its store at rest, each descriptor found, each endpoint key holding the endpoint's text
under the lease, and the rows of its zones settled. -/
structure Plugged (ks : KeySpace) (policy : AddressPolicy) (ds : List Descriptor) (e : Endpoint)
    (lease : LeaseId) (p : Plane) : Prop where
  enrolled : Enrolled ks policy lease p
  atRest : Store.AtRest p.clock p.store
  observed : ∀ d ∈ ds, Observed ks d p.store
  endpoints : ∀ d ∈ ds, p.store.held (ks.nodeKey d.service d.zone e.address) = some (e.text, lease)
  rows : RowsSettled ds p.index

/-- The endpoint writes of a plug, part way: the descriptors found, the rows written, the
endpoint keys of the descriptors passed holding the endpoint, and the store at rest once a
write was made. -/
structure Writing (ks : KeySpace) (policy : AddressPolicy) (ds : List Descriptor) (e : Endpoint)
    (lease : LeaseId) (rest : List Descriptor) (p : Plane) : Prop where
  enrolled : Enrolled ks policy lease p
  observing : Observing ks (· ∈ ds) p
  rows : RowsWritten ds p.index
  endpoints : ∀ d ∈ ds, d ∉ rest →
    p.store.held (ks.nodeKey d.service d.zone e.address) = some (e.text, lease)
  atRest : rest = [] → Store.AtRest p.clock p.store

/-- One endpoint write answers into a plug's writes: it puts its key, keeps the keys before it,
which the sweep does not touch, and leaves the store at rest. -/
theorem Writing.endpoint {ds : List Descriptor} {e : Endpoint} {d : Descriptor}
    {rest : List Descriptor} (hd : d ∈ ds) (ha : policy.check e.address = .ok ()) :
    Triple (Writing ks policy ds e lease (d :: rest)) (ControlPlane.onStore
        (fun s now => s.txn now (endpointWrite (ks.nodeKey d.service d.zone e.address) e.text lease))
        "plug service fail")
      (fun _ => Writing ks policy ds e lease rest) (fun _ => True) := by
  refine .assume fun p₀ h₀ => ?_
  have hz := h₀.observing.checked d hd
  have noDelete : ∀ now t, DeletesNoDescriptor ks ((Store.Call.txn now
      (endpointWrite (ks.nodeKey d.service d.zone e.address) e.text lease)).writesAt t) := by
    intro now t k _ _ _ hmem
    simp only [Store.Call.writesAt, endpointWrite] at hmem
    split_ifs at hmem <;> simp at hmem
  refine (Enrolled.onStore (c := fun now => .txn now (endpointWrite _ e.text lease))
    (Q := fun _ p => Observing ks (· ∈ ds) p ∧ RowsWritten ds p.index ∧
      (∀ d' ∈ ds, d' ∉ rest →
        p.store.held (ks.nodeKey d'.service d'.zone e.address) = some (e.text, lease)) ∧
      Store.AtRest p.clock p.store)
    (fun _ _ => rfl) (fun _ h => h.enrolled) (fun now => .endpoint now _ _ e lease hz ha)
    (fun _ s now hc r => r.txn hc _) fun p h a answered => ?_).conseq (fun _ h => h)
    (fun _ _ h => ⟨h.1, h.2.1, h.2.2.1, h.2.2.2.1, fun _ => h.2.2.2.2⟩) fun _ h => h
  have hc := h.enrolled.consistent
  refine ⟨h.observing.apply (.endpoint p.clock _ _ e lease hz ha) (noDelete p.clock), h.rows,
    fun d' hd' notRest => ?_, Store.AtRest.txn hc _⟩
  -- the key written holds the endpoint; a key written before keeps it through the sweep
  rw [Store.txn_endpointWrite_held hc h.enrolled.nonneg answered]
  split
  · rfl
  · by_cases passed : d' = d
    · subst passed
      exact absurd rfl ‹_›
    · have before := h.endpoints d' hd' fun mem => notRest
        ((List.mem_cons.1 mem).resolve_left passed)
      exact Store.held_expire hc before h.enrolled.live

/-- A registration of prepared descriptors that answers leaves them plugged. -/
theorem writeRegistration_plugged {ds : List Descriptor} {e : Endpoint}
    (hds : ∀ d ∈ ds, checkServiceZone d.service d.zone = .ok ())
    (hhash : ∀ d ∈ ds, d.computeHash = d.contentHash) (hne : ds ≠ [])
    (ha : policy.check e.address = .ok ()) :
    Triple (Enrolled ks policy lease) (writeRegistration ds e.address e.text lease)
      (fun _ => Plugged ks policy ds e lease) (fun _ => True) := by
  unfold writeRegistration
  -- the descriptors: each found, on a store that registry calls reach
  have descriptors : Triple (fun p => Enrolled ks policy lease p ∧ Observing ks (fun _ => False) p)
      (ds.forM ensureDescriptor) (fun _ p => Enrolled ks policy lease p ∧ Observing ks (· ∈ ds) p)
      (fun _ => True) :=
    (((ensureDescriptors_enrolled hds).conseq (fun _ h => h.1) (fun _ _ h => h) fun _ h => h).and
      ((ensureDescriptors_observe hds hhash).conseq (fun _ h => h.2) (fun _ _ h => h)
        fun _ h => h)).conseq (fun _ h => h) (fun _ _ h => ⟨h.1, h.2.mono fun _ hd => .inr hd⟩)
      fun _ _ => trivial
  refine .bind _ (descriptors.conseq (fun p h => ⟨h, Interleaved.observing h.keyspace h.reached⟩)
    (fun _ _ h => h) fun _ h => h) fun _ => ?_
  -- the rows, of descriptors that agree since each hashes as its zone's stored descriptor
  refine .bind (fun _ p => Enrolled ks policy lease p ∧ Observing ks (· ∈ ds) p ∧
      RowsWritten ds p.index)
    (.onIndexWrite (fun p ix ⟨h, found⟩ hup => ?_) fun _ _ _ _ => trivial) fun _ => ?_
  · have agree := zonesAgree_of_observed fun d hd => found.observed d hd
    exact ⟨h.of_store rfl rfl rfl rfl, found.of_store rfl rfl, RowsWritten.upsert agree hne hup⟩
  refine .get_bind fun p₀ => .assume fun p ⟨⟨h, found, rows⟩, hp⟩ => ?_
  subst hp
  rw [h.keyspace]
  -- the endpoint keys, one after another
  refine .bind (fun _ => Writing ks policy ds e lease [])
    ((Triple.forM (Writing ks policy ds e lease) fun d rest hs => ?_).conseq
      (fun p' h' => ⟨h'.1.1, h'.1.2.1, h'.1.2.2, fun d hd notRest => absurd hd notRest,
        fun empty => absurd empty hne⟩) (fun _ _ h => h) fun _ h => h) fun _ => ?_
  · exact .bind _ (Writing.endpoint (hs.subset List.mem_cons_self) ha) fun _ => .pure fun _ h => h
  -- the marking settles the rows; the store stays as the writes left it
  refine .onIndexWrite (fun p' ix w hm => ?_) fun _ _ _ _ => trivial
  exact ⟨w.enrolled.of_store rfl rfl rfl rfl, w.atRest rfl,
    fun d hd => w.observing.observed d hd, fun d hd => w.endpoints d hd List.not_mem_nil,
    w.rows.markVerified hne hm⟩

theorem Plugged.count {ds : List Descriptor} {e : Endpoint} (h : Plugged ks policy ds e lease p)
    (m : Metrics) : Plugged ks policy ds e lease { p with metrics := m } :=
  ⟨h.enrolled.of_store rfl rfl rfl rfl, h.atRest, h.observed, h.endpoints, h.rows⟩

/-! ## The whole plug -/

theorem mapM_prepareDescriptor_mem {descs ds : List Descriptor}
    (h : descs.mapM prepareDescriptor = .ok ds) :
    ∀ d ∈ descs, ∃ d' ∈ ds, prepareDescriptor d = .ok d' := by
  obtain ⟨rfl, each⟩ := mapM_prepareDescriptor_eq h
  exact fun d hd => ⟨_, List.mem_map_of_mem hd, each d hd⟩

/-- A plug that answers, run over a store that registry calls reach, passed its checks and
leaves its prepared descriptors plugged under the lease it answers with. -/
theorem plugAll_plugged (descs : List Descriptor) (e : Endpoint) (ttl : Int) (lease : LeaseId) :
    Triple (fun p => p.keyspace = ks ∧ p.policy = policy ∧ Interleaved ks policy p.store)
      (plugAll descs e ttl lease)
      (fun g p => policy.check e.address = .ok () ∧ descs ≠ [] ∧
        ∃ ds, descs.mapM prepareDescriptor = .ok ds ∧ Plugged ks policy ds e g.id p)
      (fun _ => True) := by
  unfold plugAll
  refine .recorded ?_ (fun _ _ m h => ⟨h.1, h.2.1, h.2.2.imp fun _ h => ⟨h.1, h.2.count m⟩⟩)
    fun _ _ _ => trivial
  refine .get_bind fun p₀ => .assume fun _ ⟨⟨hk, hpol, hreach⟩, hp⟩ => ?_
  subst hp
  refine .check_bind (fun ha => ?_) fun _ _ => trivial
  rw [hpol] at ha
  extract_lets value checked
  have hchecked : ∀ u, descs ≠ [] → Triple (Enrolled ks policy 0) (checked u)
      (fun g p => policy.check e.address = .ok () ∧ descs ≠ [] ∧
        ∃ ds, descs.mapM prepareDescriptor = .ok ds ∧ Plugged ks policy ds e g.id p)
      (fun _ => True) := by
    intro u some
    refine .check_bind (fun _ => ?_) fun _ _ => trivial
    refine .ofExcept_bind (fun ds hds => ?_) fun _ _ => trivial
    have hne : ds ≠ [] := by
      obtain ⟨d, hd⟩ := List.exists_mem_of_ne_nil descs some
      obtain ⟨d', hd', -⟩ := mapM_prepareDescriptor_mem hds d hd
      exact List.ne_nil_of_mem hd'
    extract_lets registered
    -- the registration answers only when it ran to its end; the handler always throws
    have hregistered : ∀ x : LeaseGrant × Bool, Triple (Enrolled ks policy x.1.id) (registered x)
        (fun g p => Plugged ks policy ds e g.id p) (fun _ => True) := by
      rintro ⟨grant, fresh⟩
      refine .tryCatch (fun _ => True) (.bind _ (writeRegistration_plugged
        (mapM_prepareDescriptor_checked hds)
        (mapM_prepareDescriptor_forall (fun _ _ => prepareDescriptor_hashed) hds) hne ha) fun _ =>
          .pure fun _ h => h) fun _ => ?_
      extract_lets rethrow
      exact .ite (fun _ => .bind _ (Triple.ends _) fun _ => .throw fun _ _ => trivial) fun _ =>
        .throw fun _ _ => trivial
    -- the lease: renewed, granted, or none
    refine Triple.conseq ?_ (fun _ h => h) (fun g p h => ⟨ha, some, ds, hds, h⟩) fun _ h => h
    exact .ite (fun _ => .bind _ (renewLease_enrolled lease) fun remaining =>
        .pure_bind (hregistered (⟨lease, remaining⟩, false)))
      fun _ => .ite (fun _ => .bind _ (grantLease_enrolled ttl) fun g =>
          .pure_bind (hregistered (g, true)))
        fun _ => .pure_bind (hregistered (⟨0, ttl⟩, false))
  refine .ite (fun _ => .throw_bind fun _ _ => trivial) fun empty => ?_
  exact (hchecked () fun nil => empty (by simp [nil])).conseq
    (fun _ h => ⟨h.1.1, h.1.2.1, h.1.2.2, .inl rfl⟩) (fun _ _ h => h) fun _ h => h

end

end ControlPlane
