import ControlPlane.Proofs.Registry.Described
import ControlPlane.Proofs.Plane.Triple

/-!
# Registry operations keep endpoints described

Run one after another, the registry's operations keep the registry's keys (`RegistryKeys`),
whether they succeed or fail. Each store call of an operation is a `RegistryCall`, and what
`RegistryKeys.apply` asks of its writes comes from what the operation did just before:

* a plug writes an endpoint key only after creating its zone's descriptor key or finding it,
  and nothing in between deletes a descriptor key;
* an update rewrites an endpoint key only when it is there, so its descriptor key is there;
* deleting a service deletes descriptor keys only when its read found no endpoint key under
  them, and nothing runs between that read and the delete.

Run concurrently, the last two steps can be split by another operation's calls; the property
does not survive that (`Proofs.Registry.Runs`).
-/

namespace ControlPlane

open ControlPlane.Action

/-- A plane of keyspace `ks` whose store holds the registry's keys. -/
def RegistryState (ks : KeySpace) (p : Plane) : Prop := p.keyspace = ks ∧ RegistryKeys ks p.store

section

variable {ks : KeySpace} {α : Type}

/-- A registry call at the plane's clock keeps the registry's keys when its writes keep
endpoints described on every store its sweep can leave. -/
theorem RegistryState.onStore {pre : Plane → Prop} {policy : AddressPolicy}
    {call : Store → Nat → Except StoreError α × Store} {ctx : String} {c : Nat → Store.Call}
    (hc : ∀ s now, (call s now).2 = (c now).apply s) (hreg : ∀ now, RegistryCall ks policy (c now))
    (hpre : ∀ p, pre p → RegistryState ks p)
    (hw : ∀ p, pre p → ∀ t, p.store.Sweeps t → DescribedWrites ks ((c p.clock).writesAt t) t) :
    Triple pre (ControlPlane.onStore call ctx) (fun _ => RegistryState ks) (RegistryState ks) := by
  refine Triple.onStore fun p hp => outcome_of_snd ?_
  obtain ⟨hks, keys⟩ := hpre p hp
  show RegistryState ks { p with store := (call p.store p.clock).2 }
  rw [hc]
  exact ⟨hks, keys.apply (hreg p.clock) (hw p hp)⟩

/-! ## Unplug, update, keep-alive -/

/-- Unplugging deletes one endpoint key. -/
theorem unplug_keeps (service zone address : String) :
    Triple (RegistryState ks) (unplug service zone address) (fun _ => RegistryState ks)
      (RegistryState ks) := by
  unfold unplug
  refine .recorded ?_ (fun _ _ _ h => h) (fun _ _ h => h)
  refine .check_bind (fun hz => ?_) (fun _ h => h)
  refine .get_bind fun p₀ => .assume fun p ⟨⟨hks, _⟩, hp⟩ => ?_
  subst hp hks
  refine .check_bind (fun ha => ?_) (fun _ h => h.1)
  refine .bind (fun _ => RegistryState p.keyspace)
    (RegistryState.onStore (c := fun now => .delete now _) (fun _ _ => rfl)
      (fun now => .unplug now _ _ _ hz ha) (fun _ h => h.1)
      (fun _ _ _ _ => describedWrites_endpointDelete hz ha)) fun ⟨deleted, _⟩ => ?_
  dsimp only
  refine .ite (fun _ => .pure fun _ h => h) fun _ => ?_
  refine .bind (fun _ => RegistryState p.keyspace)
    (RegistryState.onStore (c := fun now => .read now _) (fun _ _ => rfl)
      (fun now => (.read now _ : RegistryCall _ p.policy _)) (fun _ h => h)
      (fun _ _ _ _ => describedWrites_nil)) fun r => ?_
  refine .ite (fun _ => ?_) fun _ => .pure fun _ h => h
  exact .bind (fun _ => RegistryState p.keyspace) (.onIndex (fun _ _ _ h _ => h) fun _ _ h _ => h)
    fun _ => .pure fun _ h => h

/-- The endpoint an update writes has the address of the key it rewrites. -/
theorem updatedEndpoint_address {endpoint e : Endpoint} {address : String}
    (h : updatedEndpoint endpoint address = .ok e) : e.address = address := by
  unfold updatedEndpoint at h
  split at h
  · cases h
    rfl
  · split at h
    · cases h
    · rename_i same
      cases h
      simpa using same

/-- An update rewrites an endpoint key only when the key is there. -/
theorem update_keeps (service zone address : String) (endpoint : Endpoint) :
    Triple (RegistryState ks) (update service zone address endpoint) (fun _ => RegistryState ks)
      (RegistryState ks) := by
  unfold update
  refine .recorded ?_ (fun _ _ _ h => h) (fun _ _ h => h)
  refine .check_bind (fun hz => ?_) (fun _ h => h)
  refine .get_bind fun p₀ => .assume fun p ⟨⟨hks, _⟩, hp⟩ => ?_
  subst hp hks
  refine .check_bind (fun ha => ?_) (fun _ h => h.1)
  refine .ofExcept_bind (fun e he => ?_) (fun _ h => h.1)
  -- the endpoint written carries the address of the key
  obtain rfl := updatedEndpoint_address he
  refine .bind (fun _ => RegistryState p.keyspace)
    (RegistryState.onStore (c := fun now => .txn now _) (fun _ _ => rfl)
      (fun now => .update now _ _ e hz ha) (fun _ h => h.1)
      (fun _ _ t _ => .ite (fun present => describedWrites_overwrite ?_) fun _ => describedWrites_nil))
    fun ⟨ok, _⟩ => ?_
  · simpa [endpointUpdate, Store.holds, Store.held] using present
  dsimp only
  exact .ite (fun _ => .throw_bind fun _ h => h) fun _ => .pure fun _ h => h

/-! ## Leases -/

theorem renewLease_keeps (id : LeaseId) :
    Triple (RegistryState ks) (renewLease id) (fun _ => RegistryState ks) (RegistryState ks) :=
  .assume fun p _ => RegistryState.onStore (c := fun now => .keepAlive now id) (fun _ _ => rfl)
    (fun now => (.keepAlive now id : RegistryCall _ p.policy _)) (fun _ h => h)
    (fun _ _ _ _ => describedWrites_nil)

theorem keepAlive_keeps (id : LeaseId) :
    Triple (RegistryState ks) (keepAlive id) (fun _ => RegistryState ks) (RegistryState ks) :=
  .recorded (renewLease_keeps id) (fun _ _ _ h => h) (fun _ _ h => h)

theorem grantLease_keeps (ttl : Int) :
    Triple (RegistryState ks) (grantLease ttl) (fun _ => RegistryState ks) (RegistryState ks) := by
  unfold grantLease
  refine .check_bind (fun _ => .assume fun p _ => ?_) (fun _ h => h)
  refine .bind _ (RegistryState.onStore (c := fun now => .grant now ttl) (fun _ _ => rfl)
    (fun now => (.grant now ttl : RegistryCall _ p.policy _)) (fun _ h => h)
    (fun _ _ _ _ => describedWrites_nil)) fun g => ?_
  exact .bind (fun _ => RegistryState ks) (.modify fun _ h => h) fun _ => .pure fun _ h => h

theorem revokeLease_keeps (id : LeaseId) :
    Triple (RegistryState ks) (revokeLease id) (fun _ => RegistryState ks) (RegistryState ks) := by
  unfold revokeLease
  refine .assume fun p _ => .bind _ (RegistryState.onStore (c := fun now => .revoke now id)
    (fun _ _ => rfl) (fun now => (.revoke now id : RegistryCall _ p.policy _)) (fun _ h => h)
    (fun _ _ _ _ => describedWrites_nil)) fun _ => ?_
  exact .modify fun _ h => h

theorem releaseLease_keeps (id : LeaseId) :
    Triple (RegistryState ks) (releaseLease id) (fun _ => RegistryState ks) (RegistryState ks) :=
  .tryCatch (RegistryState ks) (revokeLease_keeps id) fun _ => .pure fun _ h => h

/-! ## Plug -/

/-- A plane of the registry where the descriptor keys of the zones of some descriptors are
held. -/
def ZonesHeld (ks : KeySpace) (P : Descriptor → Prop) (p : Plane) : Prop :=
  RegistryState ks p ∧ ∀ d, P d → ZoneHeld ks p.store d.service d.zone

/-- A registry call that deletes none of their descriptor keys keeps the zones of checked
descriptors held; when it answers, what it answers and the store it leaves meet `Q`. -/
theorem ZonesHeld.onStore {pre : Plane → Prop} {policy : AddressPolicy} {P : Descriptor → Prop}
    {call : Store → Nat → Except StoreError α × Store} {ctx : String} {c : Nat → Store.Call}
    {Q : α → Store → Prop} {fail : Plane → Prop}
    (hP : ∀ d, P d → checkServiceZone d.service d.zone = .ok ())
    (hc : ∀ s now, (call s now).2 = (c now).apply s) (hreg : ∀ now, RegistryCall ks policy (c now))
    (hpre : ∀ p, pre p → ZonesHeld ks P p) (hfail : ∀ p, ZonesHeld ks P p → fail p)
    (hw : ∀ p, pre p → ∀ t, p.store.Sweeps t → DescribedWrites ks ((c p.clock).writesAt t) t)
    (hkeep : ∀ now t d, P d → .delete (ks.descriptorKey d.service d.zone) ∉ (c now).writesAt t)
    (hQ : ∀ p, pre p → ∀ a, (call p.store p.clock).1 = .ok a → Q a (call p.store p.clock).2) :
    Triple pre (ControlPlane.onStore call ctx) (fun a p => ZonesHeld ks P p ∧ Q a p.store) fail := by
  refine Triple.onStore_keeps (Q := fun a p => Q a p.store) (fun p hp => ?_) hfail hQ
  obtain ⟨⟨hks, keys⟩, held⟩ := hpre p hp
  show RegistryState ks { p with store := (call p.store p.clock).2 } ∧ _
  rw [hc]
  refine ⟨⟨hks, keys.apply (hreg p.clock) (hw p hp)⟩, fun d hd => ?_⟩
  exact (held d hd).apply keys (ks.decode_descriptorKey (hP d hd)) (hkeep p.clock · d hd)

theorem create_zoneHeld {s : Store} {now : Nat} {service zone v : String} {rev : Revision}
    (hc : s.Consistent)
    (h : (s.txn now (descriptorCreate (ks.descriptorKey service zone) v)).1 = .ok (true, rev)) :
    ZoneHeld ks (s.txn now (descriptorCreate (ks.descriptorKey service zone) v)).2 service zone := by
  obtain ⟨-, held⟩ := Store.txn_held hc h
  unfold ZoneHeld
  rw [held]
  simp [descriptorCreate, WriteOp.heldAfter]

/-- One attempt at a descriptor: create it, or find it stored with the same hash; either way
its key is held when the attempt succeeds. -/
theorem ensureDescriptor_go_holds {P : Descriptor → Prop} (d : Descriptor)
    (hP : ∀ d, P d → checkServiceZone d.service d.zone = .ok ())
    (hd : checkServiceZone d.service d.zone = .ok ()) :
    ∀ n, Triple (ZonesHeld ks P) (ensureDescriptor.go d n)
      (fun _ => ZonesHeld ks fun d' => P d' ∨ d' = d) (RegistryState ks)
  | 0 => .throw fun _ h => h.1
  | n + 1 => by
    have hP' : ∀ d', (P d' ∨ d' = d) → checkServiceZone d'.service d'.zone = .ok () := by
      rintro d' (h | rfl)
      · exact hP d' h
      · exact hd
    unfold ensureDescriptor.go
    refine .get_bind fun p₀ => .assume fun p start => ?_
    obtain ⟨⟨⟨hks, _⟩, _⟩, hp⟩ := start
    subst hp
    rw [hks]
    -- the create: the zone is held once it answers that it wrote
    refine .bind _ (ZonesHeld.onStore (c := fun now => .txn now (descriptorCreate _ d.text))
        (Q := fun r s => r.1 = true → ZoneHeld ks s d.service d.zone) hP (fun _ _ => rfl)
        (fun now => (.create now d hd : RegistryCall _ p.policy _)) (fun _ h => h.1)
        (fun _ h => h.1) (fun _ _ _ _ => .ite (fun _ => describedWrites_descriptorPut hd) fun _ => describedWrites_nil)
        (fun _ _ _ _ => by simp [Store.Call.writesAt, descriptorCreate])
        fun p' hp' a ha created => ?_) fun written => ?_
    · obtain ⟨_, rev⟩ := a
      subst created
      exact create_zoneHeld hp'.1.1.2.consistent ha
    obtain ⟨created, _⟩ := written
    refine .ite (fun hc => .pure fun p' after => ⟨after.1.1, fun d' h => ?_⟩) fun _ => ?_
    · rcases h with h | rfl
      · exact after.1.2 d' h
      · exact after.2 hc
    -- the read: a stored descriptor is held
    refine .bind _ (ZonesHeld.onStore (c := fun now => .get now (ks.descriptorKey d.service d.zone))
        (Q := fun r s => ∀ kv, r.1 = some kv → ZoneHeld ks s d.service d.zone) hP (fun _ _ => rfl)
        (fun now => (.get now _ : RegistryCall _ p.policy _)) (fun _ h => h.1)
        (fun _ h => h.1) (fun _ _ _ _ => describedWrites_nil) (fun _ _ _ _ => by simp [Store.Call.writesAt])
        fun p' _ a ha kv found => ?_) fun read => ?_
    · obtain ⟨_, rev⟩ := a
      subst found
      exact Store.get_held ha
    obtain ⟨kv, _⟩ := read
    dsimp only
    cases kv with
    | none =>
      exact (ensureDescriptor_go_holds d hP hd n).conseq (fun _ h => h.1) (fun _ _ h => h)
        fun _ h => h
    | some kv =>
      -- a stored descriptor must hash as this one
      dsimp only
      split
      · exact .throw fun _ h => h.1.1
      · refine .ite (fun _ => .pure fun p' after => ⟨after.1.1, fun d' h => ?_⟩)
          fun _ => .throw fun _ h => h.1.1
        rcases h with h | rfl
        · exact after.1.2 d' h
        · exact after.2 kv rfl

/-- Ensuring descriptors one after another holds the descriptor keys of all their zones. -/
theorem ensureDescriptors_hold {descs : List Descriptor}
    (hds : ∀ d ∈ descs, checkServiceZone d.service d.zone = .ok ()) :
    Triple (RegistryState ks) (descs.forM ensureDescriptor) (fun _ => ZonesHeld ks (· ∈ descs))
      (RegistryState ks) := by
  -- the loop holds the zones of the descriptors it has passed
  refine (Triple.forM (fun rest => ZonesHeld ks fun d => d ∈ descs ∧ d ∉ rest)
      fun b rest hs => ?_).conseq
    (fun _ h => ⟨h, fun _ hd => absurd hd.1 hd.2⟩)
    (fun _ _ h => ⟨h.1, fun d hd => h.2 d ⟨hd, List.not_mem_nil⟩⟩) fun _ h => h
  have hb : b ∈ descs := hs.subset List.mem_cons_self
  refine (ensureDescriptor_go_holds b (fun d hd => hds d hd.1) (hds b hb) maxAttempts).conseq
    (fun _ h => h) (fun _ _ h => ⟨h.1, fun d ⟨hd, hrest⟩ => h.2 d ?_⟩) fun _ h => h
  by_cases hdb : d = b
  · exact .inr hdb
  · exact .inl ⟨hd, by simp [hdb, hrest]⟩

/-- Writing a registration: the descriptors, then each endpoint key beside its zone's descriptor
key. -/
theorem writeRegistration_keeps {policy : AddressPolicy} {descs : List Descriptor} {e : Endpoint}
    {lease : LeaseId} (hds : ∀ d ∈ descs, checkServiceZone d.service d.zone = .ok ())
    (ha : policy.check e.address = .ok ()) :
    Triple (RegistryState ks) (writeRegistration descs e.address e.text lease)
      (fun _ => RegistryState ks) (RegistryState ks) := by
  unfold writeRegistration
  refine .bind _ (ensureDescriptors_hold hds) fun _ => ?_
  refine .bind (fun _ => ZonesHeld ks (· ∈ descs)) (.onIndex (fun _ _ _ h _ => h) fun _ _ h _ => h.1)
    fun _ => ?_
  refine .get_bind fun p₀ => .assume fun p ⟨⟨⟨hks, _⟩, _⟩, hp⟩ => ?_
  subst hp
  rw [hks]
  -- each endpoint key is written beside its zone's descriptor key, which stays held
  refine .bind (fun _ => ZonesHeld ks (· ∈ descs)) ((Triple.forM (fun _ => ZonesHeld ks (· ∈ descs))
      fun b rest hs => ?_).conseq (fun _ h => h.1) (fun _ _ h => h) fun _ h => h)
    fun _ => .onIndex (fun _ _ _ h _ => h.1) fun _ _ h _ => h.1
  have hb : b ∈ descs := hs.subset List.mem_cons_self
  have hz := hds b hb
  refine .bind _ (ZonesHeld.onStore (c := fun now => .txn now (endpointWrite _ e.text lease))
      (Q := fun _ _ => True) (fun d hd => hds d hd) (fun _ _ => rfl)
      (fun now => .endpoint now _ _ e lease hz ha) (fun _ h => h) (fun _ h => h.1)
      (fun p' hp' t swept => .ite (fun _ => describedWrites_nil) fun _ =>
        describedWrites_endpointPut hz ha
          ((hp'.2 b hb).sweep (ks.decode_descriptorKey hz) hp'.1.2.unleased swept))
      (fun _ _ _ _ => by simp [Store.Call.writesAt, endpointWrite])
      fun _ _ _ _ => trivial) fun _ => .pure fun _ h => h.1

/-- A prepared descriptor is the given one in its default zone, checked, with its hash filled
in. -/
theorem prepareDescriptor_eq {d d' : Descriptor} (h : prepareDescriptor d = .ok d') :
    checkServiceZone d.service (zoneOrDefault d.zone) = .ok () ∧
      d' = { d with zone := zoneOrDefault d.zone }.hashed := by
  unfold prepareDescriptor at h
  cases hz : checkServiceZone d.service (zoneOrDefault d.zone) with
  | error e =>
    simp only [hz] at h
    cases h
  | ok u =>
    simp only [hz] at h
    split at h
    · cases h
    · cases h
      exact ⟨rfl, rfl⟩

theorem prepareDescriptor_checked {d d' : Descriptor} (h : prepareDescriptor d = .ok d') :
    checkServiceZone d'.service d'.zone = .ok () := by
  obtain ⟨hz, rfl⟩ := prepareDescriptor_eq h
  exact hz

theorem prepareDescriptor_hashed {d d' : Descriptor} (h : prepareDescriptor d = .ok d') :
    d'.computeHash = d'.contentHash := by
  obtain ⟨-, rfl⟩ := prepareDescriptor_eq h
  rfl

/-- A prepared list is the given descriptors prepared one by one, in order: each passes its
checks, and its zone is defaulted and its hash filled in. -/
theorem mapM_prepareDescriptor_eq :
    ∀ {descs ds : List Descriptor}, descs.mapM prepareDescriptor = .ok ds →
      ds = descs.map (fun d => { d with zone := zoneOrDefault d.zone }.hashed) ∧
        ∀ d ∈ descs, prepareDescriptor d = .ok { d with zone := zoneOrDefault d.zone }.hashed
  | [], ds, h => by
    cases h
    exact ⟨rfl, nofun⟩
  | d :: descs, ds, h => by
    rw [List.mapM_cons] at h
    cases hd : prepareDescriptor d with
    | error e =>
      simp only [hd] at h
      cases h
    | ok d' =>
      cases hrest : descs.mapM prepareDescriptor with
      | error e =>
        simp only [hd, hrest] at h
        cases h
      | ok ds' =>
        simp only [hd, hrest] at h
        cases h
        obtain ⟨-, rfl⟩ := prepareDescriptor_eq hd
        obtain ⟨rfl, each⟩ := mapM_prepareDescriptor_eq hrest
        refine ⟨rfl, fun x hx => ?_⟩
        rcases List.mem_cons.1 hx with rfl | hx
        · exact hd
        · exact each x hx

theorem mapM_prepareDescriptor_forall {P : Descriptor → Prop}
    (hP : ∀ d d', prepareDescriptor d = .ok d' → P d') {descs ds : List Descriptor}
    (h : descs.mapM prepareDescriptor = .ok ds) : ∀ d ∈ ds, P d := by
  obtain ⟨rfl, each⟩ := mapM_prepareDescriptor_eq h
  intro d hd
  obtain ⟨d₀, h₀, rfl⟩ := List.mem_map.1 hd
  exact hP d₀ _ (each d₀ h₀)

theorem mapM_prepareDescriptor_checked {descs ds : List Descriptor}
    (h : descs.mapM prepareDescriptor = .ok ds) :
    ∀ d ∈ ds, checkServiceZone d.service d.zone = .ok () :=
  mapM_prepareDescriptor_forall (fun _ _ => prepareDescriptor_checked) h

/-- A plug, failed or not: its lease calls write no key, its registration writes endpoint keys
beside their descriptor keys, and releasing a fresh lease on failure removes only leased
keys. -/
theorem plugAll_keeps (descs : List Descriptor) (endpoint : Endpoint) (ttl : Int)
    (lease : LeaseId) :
    Triple (RegistryState ks) (plugAll descs endpoint ttl lease) (fun _ => RegistryState ks)
      (RegistryState ks) := by
  unfold plugAll
  refine .recorded ?_ (fun _ _ _ h => h) (fun _ _ h => h)
  refine .get_bind fun p₀ => .check_bind (fun ha => ?_) (fun _ h => h.1)
  extract_lets value checked
  -- what follows the refusal of an empty list of descriptors
  have hchecked : ∀ u, Triple (RegistryState ks) (checked u) (fun _ => RegistryState ks)
      (RegistryState ks) := by
    intro u
    refine .check_bind (fun _ => ?_) (fun _ h => h)
    refine .ofExcept_bind (fun ds hds => ?_) (fun _ h => h)
    extract_lets registered
    -- the registration, and on its failure the release of a fresh lease
    have hregistered : ∀ x, Triple (RegistryState ks) (registered x) (fun _ => RegistryState ks)
        (RegistryState ks) := by
      rintro ⟨grant, fresh⟩
      refine .tryCatch (RegistryState ks) (.bind _
        (writeRegistration_keeps (mapM_prepareDescriptor_checked hds) ha) fun _ =>
          .pure fun _ h => h) fun _ => ?_
      extract_lets rethrow
      exact .ite (fun _ => .bind _ (releaseLease_keeps _) fun _ => .throw fun _ h => h) fun _ =>
        .throw fun _ h => h
    -- the lease: renewed, granted, or none
    exact .ite (fun _ => .bind _ (renewLease_keeps lease) fun remaining =>
        .pure_bind (hregistered (⟨lease, remaining⟩, false)))
      fun _ => .ite (fun _ => .bind _ (grantLease_keeps ttl) fun g =>
          .pure_bind (hregistered (g, true)))
        fun _ => .pure_bind (hregistered (⟨0, ttl⟩, false))
  refine .ite (fun _ => .throw_bind fun _ h => h.1) fun _ => ?_
  exact (hchecked ()).conseq (fun _ h => h.1) (fun _ _ h => h) fun _ h => h

/-! ## Deleting a service -/

/-- A start of a scan that holds every endpoint key of a zone whose descriptor key it holds. -/
def ZoneClosed (ks : KeySpace) (start : String) : Prop :=
  ∀ kd kn service zone address, ks.decode kd = some ⟨service, zone, .descriptor⟩ →
    ks.decode kn = some ⟨service, zone, .node address⟩ →
    start.toList <+: kd.toList → start.toList <+: kn.toList

theorem zoneClosed_serviceScanStart {service : String} (hs : '/' ∉ service.toList) :
    ZoneClosed ks (ks.serviceScanStart service) := by
  intro kd kn service' zone address hd hn under
  obtain ⟨rfl, hkd⟩ := ks.eq_encode_of_decode hd
  obtain ⟨rfl, hkn⟩ := ks.eq_encode_of_decode hn
  exact (ks.prefix_serviceScanStart hkn hs).2 ((ks.prefix_serviceScanStart hkd hs).1 under)

theorem zoneClosed_zoneScanStart {service zone : String} (hs : '/' ∉ service.toList)
    (hz : '/' ∉ zone.toList) : ZoneClosed ks (ks.zoneScanStart service zone) := by
  intro kd kn service' zone' address hd hn under
  obtain ⟨rfl, hkd⟩ := ks.eq_encode_of_decode hd
  obtain ⟨rfl, hkn⟩ := ks.eq_encode_of_decode hn
  exact (ks.prefix_zoneScanStart hkn hs hz).2 ((ks.prefix_zoneScanStart hkd hs hz).1 under)

/-- A read of the keys under `start`: everything it found is under `start`, and it found every
key under `start` that a store holds. -/
structure ReadUnder (start : String) (r : RangeResult) (s : Store) : Prop where
  under : ∀ kv ∈ r.kvs, start.toList <+: kv.key.toList
  found : ∀ k, start.toList <+: k.toList → (s.held k).isSome → ∃ kv ∈ r.kvs, kv.key = k

/-- The read of a deletion finds every key under its start. -/
theorem read_startingWith_keeps {start : String} :
    Triple (RegistryState ks) (ControlPlane.onStore
        (fun s now => s.read now (RangeRequest.startingWith start)) "get service keys fail")
      (fun r p => RegistryState ks p ∧ ReadUnder start r p.store) (RegistryState ks) := by
  refine Triple.onStore fun p ⟨hks, keys⟩ => ?_
  have after := keys.apply (c := .read p.clock (RangeRequest.startingWith start))
    (.read _ _ : RegistryCall ks p.policy _) fun _ _ => describedWrites_nil
  rw [Store.read_eq]
  refine ⟨⟨hks, after⟩, ?_, ?_⟩
  · intro kv hkv
    rw [Store.range_startingWith] at hkv
    exact List.isPrefixOf_iff_prefix.1 (List.mem_filter.1 hkv).2
  · intro k hk held
    exact Store.mem_range_startingWith hk held

/-- One attempt at deleting the descriptor keys under a start: the keys it read are all
descriptor keys, so no endpoint key of their zones was held when it read them, and nothing
ran since. -/
theorem deleteService_attempt_keeps {service start : String} {zone : Option String}
    (hstart : ZoneClosed ks start) :
    ∀ n, Triple (RegistryState ks) (deleteService.attempt service zone ks start n)
      (fun _ => RegistryState ks) (RegistryState ks)
  | 0 => .throw fun _ h => h
  | n + 1 => by
    unfold deleteService.attempt
    refine .bind _ read_startingWith_keeps fun r => ?_
    refine .ofExcept_bind (fun w hw => ?_) (fun _ h => h.1)
    obtain ⟨descriptors, rfl⟩ := descriptorDeletes_eq_ok.1 hw
    refine .ite (fun _ => .bind (fun _ => RegistryState ks) (.onIndex (fun _ _ _ h _ => h.1)
      fun _ _ h _ => h.1) fun _ => .pure fun _ h => h) fun _ => ?_
    -- no endpoint key of a zone read is held: the read would have found it under the start
    refine .assume fun p ⟨_, read⟩ => ?_
    refine .bind (fun _ => RegistryState ks) (RegistryState.onStore (c := fun now => .txn now _)
      (fun _ _ => rfl) (fun now => (.deleteDescriptors now r.kvs _ hw : RegistryCall _ p.policy _))
      (fun _ h => h.1) fun p' ⟨_, read'⟩ t swept => .ite (fun _ =>
        describedWrites_descriptorDeletes fun kv hkv k service zone address hd hn => ?_)
        fun _ => describedWrites_nil) fun ⟨ok, _⟩ => ?_
    · cases hk : t.held k with
      | none => rfl
      | some held =>
        have under := hstart kv.key k service zone address hd hn (read'.under kv hkv)
        obtain ⟨kv', hkv', rfl⟩ := read'.found k under (by rw [swept.kept _ _ hk]; rfl)
        obtain ⟨k', hk', hdesc⟩ := descriptors kv' hkv'
        rw [hn] at hk'
        cases hk'
        cases hdesc
    · exact .ite (fun _ => .bind (fun _ => RegistryState ks) (.onIndex (fun _ _ _ h _ => h)
        fun _ _ h _ => h) fun _ => .pure fun _ h => h) fun _ => deleteService_attempt_keeps hstart n

/-- Deleting a service, or one of its zones, scans under a start that holds every endpoint key
of each zone it may delete. -/
theorem deleteService_keeps (service : String) (zone : Option String) :
    Triple (RegistryState ks) (deleteService service zone) (fun _ => RegistryState ks)
      (RegistryState ks) := by
  unfold deleteService
  refine .recorded ?_ (fun _ _ _ h => h) (fun _ _ h => h)
  refine .check_bind (fun hs => ?_) (fun _ h => h)
  have hs' := (segment_of_checkService hs).noSlash
  extract_lets scan
  -- the scan starts under the service, or under the zone once the zone has passed its check
  have hscan : (∀ z, zone = some z → checkZone z = .ok ()) → ∀ u,
      Triple (RegistryState ks) (scan u) (fun _ => RegistryState ks) (RegistryState ks) := by
    intro hzone u
    refine .get_bind fun p₀ => .assume fun p ⟨⟨hks, _⟩, hp⟩ => ?_
    subst hp hks
    refine (deleteService_attempt_keeps ?_ maxAttempts).conseq (fun _ h => h.1) (fun _ _ h => h)
      fun _ h => h
    cases zone with
    | none => exact zoneClosed_serviceScanStart hs'
    | some z => exact zoneClosed_zoneScanStart hs' (segment_of_checkZone (hzone z rfl)).noSlash
  cases zone with
  | none => exact hscan (fun _ h => nomatch h) ()
  | some z => exact .check_bind (fun hz => hscan (fun _ h => by cases h; exact hz) ()) fun _ h => h

end

end ControlPlane
