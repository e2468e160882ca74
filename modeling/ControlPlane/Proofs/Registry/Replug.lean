import ControlPlane.Proofs.Registry.Plugged

/-!
# A second plug of a registration changes nothing

Right after a plug answers, the plane is `Plugged`: its store at rest, each descriptor found,
each endpoint key holding the endpoint under the lease, each row settled and stamped by the
plug. A plug of the same descriptors and endpoint under the lease it answered with then picks,
at every step, the branch that writes nothing:

* the renewal finds the lease renewed at this moment already, and sets the deadline it has;
* each descriptor's create finds its key, written once at a revision that is not 0, and the
  read that follows finds the descriptor hashing as it does;
* the upsert finds every row stamped, and only moves the index's clock and id counter;
* each endpoint write finds its key holding the value under the lease;
* the marking finds every row settled.

`replug_changes_nothing`: the second plug answers with the same lease and leaves the store as it
was, every key with its revisions and the store's revision included, and every row of the index
as it was.
-/

namespace ControlPlane

open ControlPlane.Action

/-! ## Store calls that find their work done -/

namespace Store

variable {s : Store} {now : Nat}

theorem txn_descriptorCreate_present (h : AtRest now s) {key value : String} {kv : KeyValue}
    (hfind : s.find? key = some kv) (hpos : 0 < kv.modRevision) :
    s.txn now (descriptorCreate key value) = (.ok (false, s.revision), s) := by
  have unmet : (descriptorCreate key value).conditions.all s.holds = false := by
    simp [descriptorCreate, holds, hfind, hpos.ne']
  rw [txn_atRest h (by rw [unmet]; rfl), unmet]

/-- The write of an endpoint key that holds the value under the lease, on a store at rest,
writes nothing. -/
theorem txn_endpointWrite_held_already (h : AtRest now s) {key value : String} {lease : LeaseId}
    (held : s.held key = some (value, lease)) :
    s.txn now (endpointWrite key value lease) = (.ok (true, s.revision), s) := by
  obtain ⟨kv, hfind, hkv⟩ := Option.map_eq_some_iff.1 held
  obtain ⟨rfl, rfl⟩ := Prod.mk.inj hkv
  have met : (endpointWrite key kv.value kv.lease).conditions.all s.holds = true := by
    simp [endpointWrite, holds, hfind]
  rw [txn_atRest h (by rw [met]; rfl), met]

end Store

/-! ## The steps of the second plug -/

section

variable {ks : KeySpace} {policy : AddressPolicy} {lease : LeaseId} {q : Plane}

/-- A descriptor found in a store at rest that registry calls reach is ensured without a
write: its create finds the key, and its read finds the descriptor. -/
theorem ensureDescriptor_unchanged {d : Descriptor} (rest : Store.AtRest q.clock q.store)
    (reached : Interleaved q.keyspace policy q.store)
    (hz : checkServiceZone d.service d.zone = .ok ()) (found : Observed q.keyspace d q.store) :
    Triple (· = q) (ensureDescriptor d) (fun _ p => p = q) (fun _ => False) := by
  obtain ⟨kv, stored, hfind, hread, hhash⟩ := found
  have hpos : 0 < kv.modRevision :=
    (reached.descriptorsFresh _ _ _ kv (q.keyspace.decode_descriptorKey hz) hfind).1.positive
  unfold ensureDescriptor
  rw [show maxAttempts = 4 + 1 from rfl]
  unfold ensureDescriptor.go
  refine .get_bind fun p₀ => .assume fun p start => ?_
  obtain ⟨hp, same⟩ := start
  subst p₀
  subst p
  refine .bind (fun r p => r.1 = false ∧ p = q) (.onStore_ok fun p hp => ?_)
    fun written => .assume fun _ after => ?_
  · obtain ⟨hp, -⟩ := hp
    subst p
    rw [Store.txn_descriptorCreate_present rest hfind hpos]
    exact ⟨_, rfl, rfl, rfl⟩
  obtain ⟨created, _⟩ := written
  obtain ⟨hcreated, _⟩ := after
  dsimp only at hcreated
  subst hcreated
  refine .ite (fun created => absurd created Bool.false_ne_true) fun _ => ?_
  refine .bind (fun r p => r.1 = some kv ∧ p = q) (.onStore_ok fun p hp => ?_)
    fun read => .assume fun _ after => ?_
  · obtain ⟨-, hp⟩ := hp
    subst p
    rw [Store.get_atRest rest, hfind]
    exact ⟨_, rfl, rfl, rfl⟩
  obtain ⟨kv', _⟩ := read
  obtain ⟨hkv', _⟩ := after
  dsimp only at hkv'
  subst hkv'
  dsimp only
  rw [hread]
  exact .ite (fun _ => .pure fun _ h => h.2) fun differs =>
    absurd (by rw [hhash]; exact beq_self_eq_true _) differs

theorem renewLease_unchanged (rest : Store.AtRest q.clock q.store) (hc : q.store.Consistent)
    {id : LeaseId} (renewed : Store.RenewedAt q.clock id q.store) :
    Triple (· = q) (renewLease id) (fun _ p => p = q) (fun _ => False) := by
  obtain ⟨ttl, h⟩ := Store.keepAlive_atRest rest hc renewed
  refine .onStore_ok fun p hp => ?_
  subst p
  rw [h]
  exact ⟨ttl, rfl, rfl⟩

/-- The write of an endpoint key that holds the value under the lease, on a store at rest,
changes nothing. -/
theorem endpointWrite_unchanged (rest : Store.AtRest q.clock q.store) {key value ctx : String}
    (held : q.store.held key = some (value, lease)) :
    Triple (· = q) (onStore (fun s now => s.txn now (endpointWrite key value lease)) ctx)
      (fun _ p => p = q) (fun _ => False) := by
  refine .onStore_ok fun p hp => ?_
  subst p
  rw [Store.txn_endpointWrite_held_already rest held]
  exact ⟨_, rfl, rfl⟩

/-- A registration of what is plugged writes nothing: the store stays as it is, and the index
only moves its clock and its id counter. -/
theorem writeRegistration_unchanged {ds : List Descriptor} {e : Endpoint}
    (h : Plugged ks policy ds e lease q) (hds : ∀ d ∈ ds, checkServiceZone d.service d.zone = .ok ())
    (hne : ds ≠ []) :
    Triple (· = q) (writeRegistration ds e.address e.text lease)
      (fun _ p => p = { q with
        index := { q.index with
          clock := q.index.clock + 1
          nextServiceId := q.index.nextServiceId + ds.length } }) (fun _ => False) := by
  have hk : q.keyspace = ks := h.enrolled.keyspace
  have reached : Interleaved q.keyspace policy q.store := by
    rw [hk]
    exact h.enrolled.reached
  unfold writeRegistration
  -- the descriptors: each found, none written
  refine .bind (fun _ p => p = q) (Triple.forM (fun _ p => p = q) fun d _ hs => ?_) fun _ => ?_
  · have hd := hs.subset List.mem_cons_self
    have found := h.observed d hd
    rw [← hk] at found
    exact ensureDescriptor_unchanged h.atRest reached (hds d hd) found
  -- the upsert: every row is stamped already
  have upserted := Index.upsert_stamped h.rows.upserts hne h.rows.settled h.rows.stamped
  refine .bind (fun _ p => p = { q with
      index := { q.index with
        clock := q.index.clock + 1
        nextServiceId := q.index.nextServiceId + ds.length } })
    (.onIndexWrite (fun p ix hp hup => ?_) fun p _ hp herr => ?_) fun _ => ?_
  · subst p
    rw [upserted, Except.ok.injEq] at hup
    rw [← hup]
  · subst p
    rw [upserted] at herr
    cases herr
  -- the endpoint keys: each holds the endpoint under the lease
  refine .get_bind fun p₀ => .assume fun p ⟨hp, same⟩ => ?_
  subst p₀
  have rest : Store.AtRest p.clock p.store := by
    rw [hp]
    exact h.atRest
  refine .bind (fun _ p' => p' = p) ((Triple.forM (fun _ p' => p' = p) fun d _ hs =>
      .bind _ (endpointWrite_unchanged rest ?_) fun _ => .pure fun _ h => h).conseq
    (fun _ h => h.2) (fun _ _ h => h) fun _ h => h) fun _ => ?_
  · rw [hp, hk]
    exact h.endpoints d (hs.subset List.mem_cons_self)
  -- the marking: every row is settled already
  have hopen : p.index.Answers .markVerified := by
    rw [hp]
    exact h.rows.marks
  have settled : ∀ d ∈ ds, Index.ZoneSettled p.index.services d := by
    rw [hp]
    exact h.rows.settled
  have marked := Index.markVerified_settled hopen settled
  refine .onIndexWrite (fun p' ix hp' hm => ?_) fun p' _ hp' herr => ?_
  · subst p'
    rw [marked, Except.ok.injEq] at hm
    rw [← hm]
    exact hp
  · subst p'
    rw [marked] at herr
    cases herr

theorem mapM_prepareDescriptor_length {descs ds : List Descriptor}
    (h : descs.mapM prepareDescriptor = .ok ds) : ds.length = descs.length := by
  rw [(mapM_prepareDescriptor_eq h).1, List.length_map]

/-- A plug of what is plugged, under the lease it answered with, renews nothing that needs it
and writes nothing: it answers with that lease, and leaves the plane as it was but for the
index's clock and id counter and the counters of calls. -/
theorem plugAll_unchanged {descs ds : List Descriptor} {e : Endpoint} {ttl : Int} {g : LeaseGrant}
    (h : Plugged ks policy ds e g.id q) (ha : policy.check e.address = .ok ())
    (hne : descs ≠ []) (hds : descs.mapM prepareDescriptor = .ok ds)
    (httl : Lease.checkTtl ttl = .ok ()) (hzero : g.id = 0 → ttl ≤ 0) :
    Triple (· = q) (plugAll descs e ttl g.id)
      (fun g' p => g'.id = g.id ∧ ∃ m, p = { q with
        index := { q.index with
          clock := q.index.clock + 1
          nextServiceId := q.index.nextServiceId + ds.length }
        metrics := m })
      (fun _ => False) := by
  have hne' : ds ≠ [] := by
    obtain ⟨d, hd⟩ := List.exists_mem_of_ne_nil descs hne
    obtain ⟨d', hd', -⟩ := mapM_prepareDescriptor_mem hds d hd
    exact List.ne_nil_of_mem hd'
  unfold plugAll
  refine .recorded ?_ (fun _ _ m ⟨hid, _, hp⟩ => ⟨hid, m, by rw [hp]⟩) fun _ _ h => h
  refine .get_bind fun p₀ => .assume fun p ⟨hp, same⟩ => ?_
  subst p₀
  subst p
  have ha' : q.policy.check e.address = .ok () := by
    rw [h.enrolled.policy_eq]
    exact ha
  refine .ofExcept_ok_bind ha' ?_
  extract_lets value checked
  have hchecked : Triple (fun p => p = q ∧ p = q) (checked ())
      (fun g' p => g'.id = g.id ∧ ∃ m, p = { q with
        index := { q.index with
          clock := q.index.clock + 1
          nextServiceId := q.index.nextServiceId + ds.length }
        metrics := m })
      (fun _ => False) := by
    refine .ofExcept_ok_bind httl (.ofExcept_ok_bind hds ?_)
    extract_lets registered
    -- the registration answers with the lease it was given, having written nothing
    have hregistered : ∀ (x : LeaseGrant) (fresh : Bool), x.id = g.id →
        Triple (fun p => p = q) (registered (x, fresh))
          (fun g' p => g'.id = g.id ∧ ∃ m, p = { q with
            index := { q.index with
              clock := q.index.clock + 1
              nextServiceId := q.index.nextServiceId + ds.length }
            metrics := m })
          (fun _ => False) := by
      intro x fresh hx
      have plugged : Plugged ks policy ds e x.id q := by
        rw [hx]
        exact h
      refine .tryCatch (fun _ => False) (.bind _ (writeRegistration_unchanged plugged
        (mapM_prepareDescriptor_checked hds) hne') fun _ =>
          .pure fun _ hp => ⟨hx, q.metrics, hp⟩) fun _ => ⟨fun _ h => h.elim⟩
    -- the lease: renewed where there is one, none otherwise
    by_cases none : g.id = 0
    · refine .ite (fun c => absurd c (by simp [none])) fun _ =>
        .ite (fun pos => absurd pos (Int.not_lt.2 (hzero none))) fun _ =>
          .pure_bind ((hregistered ⟨0, ttl⟩ false none.symm).conseq (fun _ h => h.1)
            (fun _ _ h => h) fun _ h => h)
    · refine .ite (fun _ => .bind (fun _ p => p = q) ?_ fun remaining =>
          .pure_bind (hregistered ⟨g.id, remaining⟩ false rfl)) fun c =>
        absurd (bne_iff_ne.2 none) c
      exact (renewLease_unchanged h.atRest h.enrolled.consistent
        ((h.enrolled.lease.resolve_left none))).conseq (fun _ h => h.1) (fun _ _ h => h)
          fun _ h => h
  exact .ite (fun empty => absurd (List.isEmpty_iff.1 empty) hne) fun _ => hchecked

end

/-! ## Plug, then plug again -/

/-- A plug repeated right after it answered, with the same descriptors and endpoint, under the
lease it answered with and with a time to live the plug accepts (none when there is no lease),
answers with the same lease and changes nothing: the store stays as it was, every key with its
value, lease and revisions, the store's revision and its leases included, and so does every row
of the index. Only the index's clock and id counter and the counters of calls move. -/
theorem replug_changes_nothing {p q : Plane} (reached : Interleaved p.keyspace p.policy p.store)
    {descs : List Descriptor} {e : Endpoint} {ttl ttl' : Int} {lease : LeaseId} {g : LeaseGrant}
    (run : (plugAll descs e ttl lease).exec p = (.ok g, q))
    (httl : Lease.checkTtl ttl' = .ok ()) (hzero : g.id = 0 → ttl' ≤ 0) :
    ∃ g' m, (plugAll descs e ttl' g.id).exec q = (.ok g', { q with
        index := { q.index with
          clock := q.index.clock + 1
          nextServiceId := q.index.nextServiceId + descs.length }
        metrics := m }) ∧ g'.id = g.id := by
  have outcome := (plugAll_plugged descs e ttl lease).run p ⟨rfl, rfl, reached⟩
  rw [run] at outcome
  obtain ⟨ha, hne, ds, hds, plugged⟩ := outcome
  have again := (plugAll_unchanged plugged ha hne hds httl hzero).run q rfl
  rw [← mapM_prepareDescriptor_length hds]
  revert again
  rcases (plugAll descs e ttl' g.id).exec q with ⟨_ | g', q'⟩
  · exact False.elim
  · rintro ⟨hid, m, rfl⟩
    exact ⟨g', m, rfl, hid⟩

/-- A plug with no lease on an empty store, then the same plug again: the second leaves the
store and the rows as the first left them. -/
theorem plug_twice_keeps_store_and_rows :
    let d : Descriptor := { service := "orders:1.0", zone := "dc-1", kind := "grpc",
                            proto := "service Order" }
    let e : Endpoint := { kind := "grpc", address := "10.0.0.5:9000" }
    let q := ((plugAll [d] e 0 0).exec { store := Store.make 0 0 }).2
    ((plugAll [d] e 0 0).exec q).2.store = q.store ∧
      ((plugAll [d] e 0 0).exec q).2.index.services = q.index.services := by
  intro d e
  have first : ((plugAll [d] e 0 0).exec { store := Store.make 0 0 }).1.toOption.map (·.id) =
      some 0 := by
    decide +kernel
  rcases run : (plugAll [d] e 0 0).exec { store := Store.make 0 0 } with ⟨_ | g, q⟩
  · rw [run] at first
    cases first
  · rw [run] at first
    have hid : g.id = 0 := Option.some.inj first
    obtain ⟨g', m, again, -⟩ := replug_changes_nothing (Interleaved.make 0 0) run
      (show Lease.checkTtl 0 = .ok () from rfl) fun _ => le_refl 0
    rw [hid] at again
    dsimp only
    rw [again]
    exact ⟨rfl, rfl⟩

end ControlPlane
