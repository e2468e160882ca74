import ControlPlane.Proofs.Registry.Runs
import ControlPlane.Proofs.Registry.Frame
import ControlPlane.Proofs.Store.LeaseLife
import ControlPlane.Proofs.Index.Rows

/-!
# Every endpoint is listed by search

Registry operations run one after another from an empty store, failed or not, with the clock
moving and the reaper sweeping between them, leave the zone of every endpoint key with an
active, verified row, one that search lists, as long as the index answers the marking of rows
(`runs_keep_endpoints_listed`). No operation changes which calls the index answers
(`RegistryOp.run_health`). The invariant is `Listing`: a plug fails only before it writes rows,
and then has put no endpoint key; once its rows are written every call answers, and the marking
verifies, for each zone of the plug, the row of its last descriptor there
(`Index.foldl_upsertRow_markable`). An unplug or a deletion soft-deletes only zones its read
found without an endpoint key.

That read and the soft deletion after it are two steps, and a plug of the same zone may run
between them: unplug is its probe followed by its settling (`unplug_eq`), and a plug put
between the two has its endpoint held and its zone hidden
(`interleaved_unplug_hides_endpoint`).
-/

namespace ControlPlane

open ControlPlane.Action

/-- The zone has a row that search lists: an active, verified one. -/
def Listed (rows : List ServiceRow) (service zone : String) : Prop :=
  ∃ r ∈ rows, r.service = service ∧ r.zone = zone ∧ r.status = .active ∧ r.verified = true

instance (rows : List ServiceRow) (service zone : String) : Decidable (Listed rows service zone) :=
  inferInstanceAs (Decidable (∃ r ∈ rows, _))

/-- The zone of every endpoint key meets `Z`. -/
def EndpointsIn (ks : KeySpace) (Z : String → String → Prop) (s : Store) : Prop :=
  ∀ k service zone address, ks.decode k = some ⟨service, zone, .node address⟩ →
    (s.held k).isSome → Z service zone

/-- Every endpoint key has its zone listed by search. -/
def EndpointsListed (ks : KeySpace) (p : Plane) : Prop :=
  EndpointsIn ks (Listed p.index.services) p.store

/-- A plane of keyspace `ks`, with a consistent store, whose every endpoint's zone meets `Z` of
its rows. -/
def EndpointsBy (ks : KeySpace) (Z : List ServiceRow → String → String → Prop) (p : Plane) : Prop :=
  p.keyspace = ks ∧ p.store.Consistent ∧ EndpointsIn ks (Z p.index.services) p.store

/-- A plane of keyspace `ks`, with a consistent store, whose endpoints are all listed. -/
def Listing (ks : KeySpace) : Plane → Prop := EndpointsBy ks Listed

/-- A soft deletion of the rows of `service`, or of its zone `zone`, covers the zone. -/
def Covers (service : String) (zone : Option String) (s z : String) : Prop :=
  s = service ∧ ∀ z', zone = some z' → z = z'

section

variable {ks : KeySpace} {s : Store} {Z Z' : String → String → Prop}

theorem EndpointsIn.mono (h : EndpointsIn ks Z s) (hZ : ∀ a b, Z a b → Z' a b) :
    EndpointsIn ks Z' s :=
  fun k service zone address hk held => hZ service zone (h k service zone address hk held)

/-- A call keeps every endpoint's zone in `Z` when it puts an endpoint key only over itself or
in a zone in `Z`. -/
theorem EndpointsIn.apply {c : Store.Call} (h : EndpointsIn ks Z s) (hc : s.Consistent)
    (hput : ∀ t, s.Sweeps t → ∀ k service zone address,
      ks.decode k = some ⟨service, zone, .node address⟩ →
      ∀ v b, .put k v b ∈ c.writesAt t → Z service zone ∨ (t.held k).isSome) :
    EndpointsIn ks Z (c.apply s) := by
  intro k service zone address hk after
  obtain ⟨t, swept, ops, hops, held⟩ := Store.Call.held_apply hc c
  obtain ⟨⟨v, l⟩, hv⟩ := Option.isSome_iff_exists.1 after
  rw [held] at hv
  -- a key the sweep left was held before the call
  have before : (t.held k).isSome → Z service zone := fun ht => by
    obtain ⟨q, hq⟩ := Option.isSome_iff_exists.1 ht
    exact h k service zone address hk (by rw [swept.kept _ _ hq]; rfl)
  rcases hops with rfl | rfl
  · rw [List.foldl_nil] at hv
    exact before (by rw [hv]; rfl)
  rcases Store.foldl_heldAfter_cases hv with was | ⟨b, hmem, -⟩
  · exact before (by rw [was]; rfl)
  · exact (hput t swept k service zone address hk v b hmem).elim id before

theorem EndpointsIn.apply_of_none {c : Store.Call} (h : EndpointsIn ks Z s) (hc : s.Consistent)
    (hnone : ∀ t k service zone address, ks.decode k = some ⟨service, zone, .node address⟩ →
      ∀ v b, .put k v b ∉ c.writesAt t) : EndpointsIn ks Z (c.apply s) :=
  h.apply hc fun t _ k service zone address hk v b hmem =>
    absurd hmem (hnone t k service zone address hk v b)

end

/-! ## Rows -/

namespace Index

variable {ix ix' : Index} {now : Nat} {verified : Bool}

/-- `r'` is `r` with perhaps its verified flag set. -/
def RowMarked (r r' : ServiceRow) : Prop :=
  r'.service = r.service ∧ r'.zone = r.zone ∧ r'.status = r.status ∧
    r'.contentHash = r.contentHash ∧ (r.verified = true → r'.verified = true)

theorem RowMarked.refl (r : ServiceRow) : RowMarked r r := ⟨rfl, rfl, rfl, rfl, id⟩

theorem RowMarked.trans {r₁ r₂ r₃ : ServiceRow} (h₁ : RowMarked r₁ r₂) (h₂ : RowMarked r₂ r₃) :
    RowMarked r₁ r₃ :=
  ⟨h₂.1.trans h₁.1, h₂.2.1.trans h₁.2.1, h₂.2.2.1.trans h₁.2.2.1, h₂.2.2.2.1.trans h₁.2.2.2.1,
    h₂.2.2.2.2 ∘ h₁.2.2.2.2⟩

/-- Steps that each mark rows, one per descriptor, mark rows. -/
theorem foldl_marks {f : Index → Descriptor → Index}
    (step : ∀ ix d, ∀ r ∈ ix.services, ∃ r' ∈ (f ix d).services, RowMarked r r') :
    ∀ (ds : List Descriptor) (ix : Index), ∀ r ∈ ix.services,
      ∃ r' ∈ (ds.foldl f ix).services, RowMarked r r'
  | [], _, r, hr => ⟨r, hr, RowMarked.refl r⟩
  | d :: ds, ix, r, hr => by
    obtain ⟨r₁, hr₁, marked₁⟩ := step ix d r hr
    obtain ⟨r₂, hr₂, marked₂⟩ := foldl_marks step ds (f ix d) r₁ hr₁
    exact ⟨r₂, hr₂, marked₁.trans marked₂⟩

/-- Marking rows verified sets the flag of some rows and changes nothing else. -/
theorem markVerified_marks {ds : List Descriptor} (h : ix.markVerified ds = .ok ix') :
    ∀ r ∈ ix.services, ∃ r' ∈ ix'.services, RowMarked r r' := by
  unfold markVerified at h
  split at h
  · cases h
    exact fun r hr => ⟨r, hr, RowMarked.refl r⟩
  replace h := (answers_of_ensureAnswers_bind h).2
  simp only [pure, Except.pure, Except.ok.injEq] at h
  subst h
  refine foldl_marks (fun ix d r hr => ⟨_, List.mem_map_of_mem hr, ?_⟩) ds ix
  split
  · exact ⟨rfl, rfl, rfl, rfl, fun _ => rfl⟩
  · exact RowMarked.refl r

/-- The zone of `d` has an active row under the hash of one of the descriptors `ds` of the zone,
which the marking of `ds` verifies. -/
def Markable (ds : List Descriptor) (rows : List ServiceRow) (d : Descriptor) : Prop :=
  ∃ r ∈ rows, r.service = d.service ∧ r.zone = d.zone ∧ r.status = .active ∧
    ∃ d' ∈ ds, d'.service = d.service ∧ d'.zone = d.zone ∧ r.contentHash = d'.contentHash

theorem Markable.listed {ds : List Descriptor} {d : Descriptor} (h : Markable ds ix.services d)
    (hm : ix.markVerified ds = .ok ix') : Listed ix'.services d.service d.zone := by
  obtain ⟨r, hr, hs, hz, active, d', hd', s', z', hash⟩ := h
  obtain ⟨r', hr', rs, rz, st, rh, -⟩ := markVerified_marks hm r hr
  have verified := (markVerified_advances hm).2 r' hr' d' hd' (by rw [rs, hs, s'])
    (by rw [rz, hz, z']) (rh.trans hash) (st.trans active)
  exact ⟨r', hr', rs.trans hs, rz.trans hz, st.trans active, verified⟩

theorem foldl_upsertRow_other {r : ServiceRow} :
    ∀ (ds : List Descriptor) (ix : Index), (∀ d ∈ ds, ¬ (r.service = d.service ∧ r.zone = d.zone)) →
      (r ∈ (ds.foldl (upsertRow now verified) ix).services ↔ r ∈ ix.services)
  | [], _, _ => Iff.rfl
  | d :: ds, ix, hr => by
    rw [List.foldl_cons, foldl_upsertRow_other ds _ fun a ha => hr a (List.mem_cons_of_mem _ ha)]
    exact mem_upsertRow_of_other (hr d List.mem_cons_self)

/-- Upserting descriptors one after another, every zone of them ends with a row the marking of
them verifies: the row of the last of them in the zone. -/
theorem foldl_upsertRow_markable :
    ∀ (ds : List Descriptor) (ix : Index), ∀ d ∈ ds,
      Markable ds (ds.foldl (upsertRow now verified) ix).services d
  | [], _ => nofun
  | d :: ds, ix => by
    intro d' hd'
    rw [List.foldl_cons]
    by_cases later : ∃ a ∈ ds, a.service = d'.service ∧ a.zone = d'.zone
    · obtain ⟨a, ha, hs, hz⟩ := later
      obtain ⟨r, hr, rs, rz, active, d'', hd'', s'', z'', hash⟩ :=
        foldl_upsertRow_markable ds (ix.upsertRow now verified d) a ha
      exact ⟨r, hr, rs.trans hs, rz.trans hz, active, d'', List.mem_cons_of_mem _ hd'',
        s''.trans hs, z''.trans hz, hash⟩
    · -- no later descriptor of the zone: this one is the first, and its row stays
      rcases List.mem_cons.1 hd' with rfl | hd'
      · have pending : PendingRows (ix.upsertRow now verified d').services d' := upsertRow_pending
        obtain ⟨⟨r, hr, hs, hz⟩, rows⟩ := pending
        obtain ⟨active, hash⟩ := rows r hr hs hz
        have kept : r ∈ (ds.foldl (upsertRow now verified) (ix.upsertRow now verified d')).services :=
          (foldl_upsertRow_other ds _ fun a ha same =>
          later ⟨a, ha, same.1.symm.trans hs, same.2.symm.trans hz⟩).2 hr
        exact ⟨r, kept, hs, hz, active, d', List.mem_cons_self, rfl, rfl, hash⟩
      · exact absurd ⟨d', hd', rfl, rfl⟩ later

/-- An upsert that answers wrote nothing, or wrote into an index that answered it. -/
theorem upsert_eq_ok {ds : List Descriptor} (h : ix.upsert ds verified = .ok ix') :
    (ds = [] ∧ ix' = ix) ∨ (ix.Answers (.upsertOf verified) ∧
      ix' = ds.foldl (upsertRow (ix.clock + 1) verified) { ix with clock := ix.clock + 1 }) := by
  cases ds with
  | nil =>
    cases h
    exact .inl ⟨rfl, rfl⟩
  | cons d ds =>
    unfold upsert at h
    obtain ⟨answers, written⟩ := answers_of_ensureAnswers_bind h
    exact .inr ⟨answers, (Except.ok.inj written).symm⟩

theorem markVerified_nil : ix.markVerified [] = .ok ix := rfl

end Index

section

variable {ix ix' : Index}

theorem Listed.marked {ds : List Descriptor} {service zone : String}
    (h : Listed ix.services service zone) (hm : ix.markVerified ds = .ok ix') :
    Listed ix'.services service zone := by
  obtain ⟨r, hr, hs, hz, active, verified⟩ := h
  obtain ⟨r', hr', s', z', st, -, v⟩ := Index.markVerified_marks hm r hr
  exact ⟨r', hr', s'.trans hs, z'.trans hz, st.trans active, v verified⟩

/-- A soft deletion keeps listed every zone it does not cover. -/
theorem Listed.softDelete {service s z : String} {zone : Option String} {n : Nat}
    (h : Listed ix.services s z) (hd : ix.softDelete service zone = .ok (n, ix'))
    (hnot : ¬ Covers service zone s z) : Listed ix'.services s z := by
  obtain ⟨r, hr, hs, hz, active, verified⟩ := h
  unfold Index.softDelete at hd
  replace hd := (Index.answers_of_ensureAnswers_bind hd).2
  simp only [pure, Except.pure, Except.ok.injEq, Prod.mk.injEq] at hd
  obtain ⟨-, rfl⟩ := hd
  -- the row is not hit: another service, or another zone than the one deleted
  have miss : (Index.ServiceRow.isOf service zone r && r.status == .active) = false := by
    subst hs hz
    cases zone with
    | none => simp_all [Covers, Index.ServiceRow.isOf]
    | some z' => simp_all [Covers, Index.ServiceRow.isOf]
  refine ⟨r, List.mem_map.2 ⟨r, hr, ?_⟩, hs, hz, active, verified⟩
  simp only [Index.tick, miss, Bool.false_eq_true, if_false]

end

/-! ## Reads -/

/-- A read of at most one key under `start` finds nothing exactly when the read of all of them
does. -/
theorem Store.range_limit_one_eq_nil_iff {t : Store} {start : String} :
    (t.range { RangeRequest.startingWith start with limit := 1, keysOnly := true }).kvs = [] ↔
      (t.range (RangeRequest.startingWith start)).kvs = [] := by
  -- the read of one key is the first key of the read of all, blanked
  have limited : (t.range { RangeRequest.startingWith start with limit := 1, keysOnly := true }).kvs =
      (if (decide (1 > 0) && decide ((t.range (RangeRequest.startingWith start)).kvs.length > 1)) = true
        then (t.range (RangeRequest.startingWith start)).kvs.take 1
        else (t.range (RangeRequest.startingWith start)).kvs).map ({ · with value := "" }) := rfl
  rw [limited, List.map_eq_nil_iff]
  split
  · simp [List.take_eq_nil_iff]
  · exact Iff.rfl

theorem KeySpace.prefix_nodeScanStart (ks : KeySpace) (service zone address : String) :
    (ks.nodeScanStart service zone).toList <+: (ks.nodeKey service zone address).toList := by
  have key : ks.nodeKey service zone address = ks.nodeScanStart service zone ++ address := by
    simp only [KeySpace.nodeKey, KeySpace.nodeScanStart, KeySpace.encode_eq, ServiceKey.leaf,
      String.append_assoc]
    rfl
  rw [key, String.toList_append]
  exact List.prefix_append _ _

/-- A read of at most one key under the endpoint scan start of a zone that finds nothing
means the zone holds no endpoint key. -/
theorem Store.nodeKey_none {ks : KeySpace} {t : Store} {service zone : String}
    (h : (t.range { RangeRequest.startingWith (ks.nodeScanStart service zone) with
      limit := 1, keysOnly := true }).kvs = []) (address : String) :
    t.held (ks.nodeKey service zone address) = none := by
  cases hk : t.held (ks.nodeKey service zone address) with
  | none => rfl
  | some q =>
    obtain ⟨kv, hkv, -⟩ := Store.mem_range_startingWith
      (ks.prefix_nodeScanStart service zone address) (by rw [hk]; rfl)
    rw [Store.range_limit_one_eq_nil_iff.1 h] at hkv
    cases hkv

theorem Store.readUnder (s : Store) (now : Nat) (start : String) :
    ReadUnder start ((s.expire now).range (RangeRequest.startingWith start)) (s.expire now).publish := by
  refine ⟨fun kv hkv => ?_, fun k hk held => Store.mem_range_startingWith hk held⟩
  rw [Store.range_startingWith] at hkv
  exact List.isPrefixOf_iff_prefix.1 (List.mem_filter.1 hkv).2

/-! ## One call -/

section

variable {ks : KeySpace} {α : Type} {Z : List ServiceRow → String → String → Prop}

/-- A store call keeps every endpoint's zone in `Z` of the rows when it puts an endpoint key only
over itself or in such a zone, whether it answers or not; when it answers, its answer and the
plane it leaves meet `Q`. -/
theorem EndpointsBy.onStore {pre fail : Plane → Prop}
    {call : Store → Nat → Except StoreError α × Store} {ctx : String} {c : Nat → Store.Call}
    {Q : α → Plane → Prop} (hc : ∀ s now, (call s now).2 = (c now).apply s)
    (hpre : ∀ p, pre p → EndpointsBy ks Z p)
    (hput : ∀ p, pre p → ∀ t, p.store.Sweeps t → ∀ k service zone address,
      ks.decode k = some ⟨service, zone, .node address⟩ → ∀ v b, .put k v b ∈ (c p.clock).writesAt t →
        Z p.index.services service zone ∨ (t.held k).isSome)
    (hfail : ∀ p, EndpointsBy ks Z p → fail p)
    (hQ : ∀ p, pre p → ∀ a, (call p.store p.clock).1 = .ok a →
      Q a { p with store := (call p.store p.clock).2 }) :
    Triple pre (ControlPlane.onStore call ctx) (fun a p => EndpointsBy ks Z p ∧ Q a p) fail := by
  refine Triple.onStore_keeps (fun p hp => ?_) hfail hQ
  obtain ⟨hks, consistent, endpoints⟩ := hpre p hp
  rw [hc]
  exact ⟨hks, consistent.apply _, endpoints.apply consistent (hput p hp)⟩

theorem EndpointsBy.onStore_quiet {call : Store → Nat → Except StoreError α × Store}
    {ctx : String} {c : Nat → Store.Call} (hc : ∀ s now, (call s now).2 = (c now).apply s)
    (hnone : ∀ now t k v b, .put k v b ∉ (c now).writesAt t) :
    Triple (EndpointsBy ks Z) (ControlPlane.onStore call ctx) (fun _ => EndpointsBy ks Z)
      (EndpointsBy ks Z) :=
  (EndpointsBy.onStore (Q := fun _ _ => True) hc (fun _ h => h)
    (fun _ _ t _ k _ _ _ _ v b hmem => absurd hmem (hnone _ t k v b)) (fun _ h => h)
    fun _ _ _ _ => trivial).conseq (fun _ h => h) (fun _ _ h => h.1) fun _ h => h

/-! ## Unplug, update, keep-alive -/

/-- An unplug soft-deletes the zone's rows only when its read found no endpoint key left. -/
theorem unplug_listed (service zone address : String) :
    Triple (Listing ks) (unplug service zone address) (fun _ => Listing ks) (Listing ks) := by
  unfold unplug
  refine .recorded ?_ (fun _ _ _ h => h) (fun _ _ h => h)
  refine .check_bind (fun hz => ?_) (fun _ h => h)
  refine .get_bind fun p₀ => .assume fun p start => ?_
  obtain ⟨⟨hks, _⟩, hp⟩ := start
  subst hp hks
  refine .check_bind (fun ha => ?_) (fun _ h => h.1)
  refine .bind (fun _ => Listing p.keyspace) ((EndpointsBy.onStore_quiet
      (c := fun now => .delete now _) (fun _ _ => rfl) (by simp [Store.Call.writesAt])).conseq
    (fun _ h => h.1) (fun _ _ h => h) fun _ h => h) fun written => ?_
  obtain ⟨deleted, _⟩ := written
  dsimp only
  refine .ite (fun _ => .pure fun _ h => h) fun _ => ?_
  -- the read: when it finds nothing, the zone holds no endpoint key
  refine .bind (fun r p' => Listing p.keyspace p' ∧ (r.kvs.isEmpty = true → ∀ a,
      p'.store.held (p.keyspace.nodeKey service (zoneOrDefault zone) a) = none))
    (EndpointsBy.onStore (c := fun now => .read now _) (fun _ _ => rfl) (fun _ h => h)
      (fun _ _ _ _ _ _ _ _ _ _ _ hmem => by simp [Store.Call.writesAt] at hmem) (fun _ h => h)
      fun p' _ r hr empty a => ?_) fun r => ?_
  · simp only [Store.read_eq, Except.ok.injEq] at hr
    subst hr
    show ((p'.store.expire p'.clock).publish).held _ = none
    rw [Store.held_publish]
    exact Store.nodeKey_none (List.isEmpty_iff.1 empty) a
  refine .ite (fun empty => ?_) fun _ => .pure fun _ h => h.1
  refine .bind (fun _ => Listing p.keyspace) (.onIndex (fun p' _ ix before hok => ?_)
    fun _ _ h _ => h.1) fun _ => .pure fun _ h => h
  obtain ⟨⟨hks', consistent, listed⟩, gone⟩ := before
  refine ⟨hks', consistent, fun k s z a hk held => ?_⟩
  -- a zone other than the unplugged one keeps its row; the unplugged one holds no endpoint
  refine Listed.softDelete (listed k s z a hk held) hok fun same => ?_
  obtain ⟨hs, hz⟩ := same
  obtain ⟨rfl, -⟩ := p.keyspace.eq_encode_of_decode hk
  rw [hs, hz _ rfl] at held
  exact absurd (gone empty a) (Option.isSome_iff_ne_none.1 held)

/-- An update rewrites an endpoint key only when the key is there. -/
theorem update_listed (service zone address : String) (endpoint : Endpoint) :
    Triple (Listing ks) (update service zone address endpoint) (fun _ => Listing ks)
      (Listing ks) := by
  unfold update
  refine .recorded ?_ (fun _ _ _ h => h) (fun _ _ h => h)
  refine .check_bind (fun _ => ?_) (fun _ h => h)
  refine .get_bind fun p₀ => .check_bind (fun _ => ?_) (fun _ h => h.1)
  refine .ofExcept_bind (fun e _ => ?_) (fun _ h => h.1)
  refine .bind (fun _ => Listing ks) ((EndpointsBy.onStore (c := fun now => .txn now _)
      (Q := fun _ _ => True) (fun _ _ => rfl) (fun _ h => h.1)
      (fun _ _ t _ k _ _ _ _ v b hmem => ?_) (fun _ h => h) fun _ _ _ _ => trivial).conseq
    (fun _ h => h) (fun _ _ h => h.1) fun _ h => h) fun ⟨ok, _⟩ => ?_
  · -- the rewrite happens only when the key is there
    simp only [Store.Call.writesAt] at hmem
    split at hmem
    · rename_i present
      obtain ⟨rfl, -, -⟩ : k = p₀.keyspace.nodeKey service (zoneOrDefault zone) address ∧
          v = e.text ∧ b = .keep := by simpa [endpointUpdate] using hmem
      exact .inr (by simpa [endpointUpdate, Store.holds, Store.held] using present)
    · simp [endpointUpdate] at hmem
  dsimp only
  exact .ite (fun _ => .throw_bind fun _ h => h) fun _ => .pure fun _ h => h

theorem keepAlive_listed (id : LeaseId) :
    Triple (Listing ks) (keepAlive id) (fun _ => Listing ks) (Listing ks) :=
  .recorded (EndpointsBy.onStore_quiet (c := fun now => .keepAlive now id) (fun _ _ => rfl)
    fun _ _ _ _ _ hmem => nomatch hmem) (fun _ _ _ h => h) (fun _ _ h => h)

/-! ## Deleting a service -/

/-- A start of a deletion's scan that holds every endpoint key the deletion covers. -/
def CoveredUnder (ks : KeySpace) (service : String) (zone : Option String) (start : String) :
    Prop :=
  ∀ k s z a, ks.decode k = some ⟨s, z, .node a⟩ → Covers service zone s z →
    start.toList <+: k.toList

theorem coveredUnder_serviceScanStart {service : String} (hs : '/' ∉ service.toList) :
    CoveredUnder ks service none (ks.serviceScanStart service) := by
  rintro k s z a hk ⟨hs', -⟩
  obtain ⟨rfl, readable⟩ := ks.eq_encode_of_decode hk
  exact (ks.prefix_serviceScanStart readable hs).2 hs'

theorem coveredUnder_zoneScanStart {service zone : String} (hs : '/' ∉ service.toList)
    (hz : '/' ∉ zone.toList) :
    CoveredUnder ks service (some zone) (ks.zoneScanStart service zone) := by
  rintro k s z a hk ⟨hs', hz'⟩
  obtain ⟨rfl, readable⟩ := ks.eq_encode_of_decode hk
  exact (ks.prefix_zoneScanStart readable hs hz).2 ⟨hs', hz' zone rfl⟩

/-- One attempt at deleting the descriptor keys under a start that holds every endpoint key the
deletion covers: the keys it read are all descriptor keys, so no endpoint key it covers was held
when it read them, its write puts none, and its soft deletion leaves every other zone listed. -/
theorem deleteService_attempt_listed {service start : String} {zone : Option String}
    (hstart : CoveredUnder ks service zone start) :
    ∀ n, Triple (Listing ks) (deleteService.attempt service zone ks start n)
      (fun _ => Listing ks) (Listing ks)
  | 0 => .throw fun _ h => h
  | n + 1 => by
    unfold deleteService.attempt
    refine .bind (fun r p => Listing ks p ∧ ReadUnder start r p.store)
      (EndpointsBy.onStore (c := fun now => .read now _) (fun _ _ => rfl) (fun _ h => h)
        (fun _ _ _ _ _ _ _ _ _ _ _ hmem => by simp [Store.Call.writesAt] at hmem) (fun _ h => h)
        fun p _ r hr => ?_) fun r => ?_
    · simp only [Store.read_eq, Except.ok.injEq] at hr
      subst hr
      exact Store.readUnder p.store p.clock start
    refine .ofExcept_bind (fun w hw => ?_) (fun _ h => h.1)
    obtain ⟨descriptors, rfl⟩ := descriptorDeletes_eq_ok.1 hw
    -- no endpoint key the deletion covers is held: the read would have found it under the start
    have uncovered : ∀ p, Listing ks p ∧ ReadUnder start r p.store →
        EndpointsBy ks (fun rows s z => Listed rows s z ∧ ¬ Covers service zone s z) p := by
      rintro p ⟨⟨hks, consistent, listed⟩, read⟩
      refine ⟨hks, consistent, fun k s z a hk held => ⟨listed k s z a hk held, fun covers => ?_⟩⟩
      obtain ⟨kv, hkv, rfl⟩ := read.found _ (hstart _ s z a hk covers) held
      obtain ⟨k', hk', hdesc⟩ := descriptors kv hkv
      rw [hk] at hk'
      cases hk'
      cases hdesc
    have listing : ∀ p, EndpointsBy ks (fun rows s z => Listed rows s z ∧ ¬ Covers service zone s z) p →
        Listing ks p := fun _ h => ⟨h.1, h.2.1, h.2.2.mono fun _ _ h => h.1⟩
    -- the soft deletion leaves listed every zone it does not cover
    have settle : ∀ {pre : Plane → Prop}, (∀ p, pre p →
        EndpointsBy ks (fun rows s z => Listed rows s z ∧ ¬ Covers service zone s z) p) →
        Triple pre (onIndex (·.softDelete service zone)) (fun _ => Listing ks) (Listing ks) :=
      fun hpre => .onIndex (fun p _ _ hp hok => by
          obtain ⟨hks, consistent, uncov⟩ := hpre p hp
          exact ⟨hks, consistent, fun k s z a hk held =>
            Listed.softDelete (uncov k s z a hk held).1 hok (uncov k s z a hk held).2⟩)
        fun p _ hp _ => listing p (hpre p hp)
    refine .ite (fun _ => .bind _ (settle uncovered) fun _ => .pure fun _ h => h) fun _ => ?_
    -- the write deletes descriptor keys only
    refine .bind (fun _ => EndpointsBy ks fun rows s z => Listed rows s z ∧ ¬ Covers service zone s z)
      ((EndpointsBy.onStore_quiet (c := fun now => .txn now _) (fun _ _ => rfl) ?_).conseq uncovered
        (fun _ _ h => h) listing) fun written => ?_
    · intro now t k v b hmem
      simp only [Store.Call.writesAt] at hmem
      split at hmem <;> simp at hmem
    obtain ⟨ok, _⟩ := written
    dsimp only
    exact .ite (fun _ => .bind _ (settle fun _ h => h) fun _ => .pure fun _ h => h) fun _ =>
      (deleteService_attempt_listed hstart n).conseq listing (fun _ _ h => h) fun _ h => h

/-- Deleting a service, or one of its zones, scans under a start that holds every endpoint key
the deletion covers. -/
theorem deleteService_listed (service : String) (zone : Option String) :
    Triple (Listing ks) (deleteService service zone) (fun _ => Listing ks) (Listing ks) := by
  unfold deleteService
  refine .recorded ?_ (fun _ _ _ h => h) (fun _ _ h => h)
  refine .check_bind (fun hs => ?_) (fun _ h => h)
  have hs' := (segment_of_checkService hs).noSlash
  extract_lets scan
  have hscan : (∀ z, zone = some z → checkZone z = .ok ()) → ∀ u,
      Triple (Listing ks) (scan u) (fun _ => Listing ks) (Listing ks) := by
    intro hzone u
    refine .get_bind fun p₀ => .assume fun p ⟨⟨hks, _⟩, hp⟩ => ?_
    subst hp hks
    refine (deleteService_attempt_listed ?_ maxAttempts).conseq (fun _ h => h.1) (fun _ _ h => h)
      fun _ h => h
    cases zone with
    | none => exact coveredUnder_serviceScanStart hs'
    | some z => exact coveredUnder_zoneScanStart hs' (segment_of_checkZone (hzone z rfl)).noSlash
  cases zone with
  | none => exact hscan (fun _ h => nomatch h) ()
  | some z => exact .check_bind (fun hz => hscan (fun _ h => by cases h; exact hz) ()) fun _ h => h

/-! ## Leases -/

theorem revokeLease_listed (id : LeaseId) :
    Triple (Listing ks) (revokeLease id) (fun _ => Listing ks) (Listing ks) := by
  unfold revokeLease
  exact .bind _ (EndpointsBy.onStore_quiet (c := fun now => .revoke now id) (fun _ _ => rfl)
    fun _ _ _ _ _ hmem => nomatch hmem) fun _ => .modify fun _ h => h

theorem releaseLease_listed (id : LeaseId) :
    Triple (Listing ks) (releaseLease id) (fun _ => Listing ks) (Listing ks) :=
  .tryCatch (Listing ks) (revokeLease_listed id) fun _ => .pure fun _ h => h

/-- A plug before its rows: every endpoint listed, its lease live if it has one, and the index
answering the marking. -/
structure Registering (ks : KeySpace) (lease : LeaseId) (p : Plane) : Prop where
  listing : Listing ks p
  live : 0 < lease → Store.LeaseLive p.clock lease p.store
  marking : p.index.Answers .markVerified

/-- Every endpoint listed, and the index answering the marking: where a plug starts. -/
def ListingMarked (ks : KeySpace) (p : Plane) : Prop := Listing ks p ∧ p.index.Answers .markVerified

theorem renew_registering (id : LeaseId) :
    Triple (ListingMarked ks) (renewLease id) (fun _ => Registering ks id) (Listing ks) :=
  (EndpointsBy.onStore (c := fun now => .keepAlive now id)
    (Q := fun _ p => Store.LeaseLive p.clock id p.store ∧ p.index.Answers .markVerified)
    (fun _ _ => rfl) (fun _ h => h.1) (fun _ _ _ _ _ _ _ _ _ _ _ hmem => nomatch hmem)
    (fun _ h => h) fun _ h _ answered => ⟨Store.keepAlive_live answered, h.2⟩).conseq
    (fun _ h => h) (fun _ _ h => ⟨h.1, fun _ => h.2.1, h.2.2⟩) fun _ h => h

/-- A grant that answers leaves the lease it grants live. -/
theorem grant_registering (ttl : Int) :
    Triple (ListingMarked ks) (grantLease ttl) (fun g => Registering ks g.id) (Listing ks) := by
  unfold grantLease
  refine .check_bind (fun _ => ?_) (fun _ h => h.1)
  refine .bind _ (EndpointsBy.onStore (c := fun now => .grant now ttl)
    (Q := fun g p => Store.LeaseLive p.clock g.id p.store ∧ p.index.Answers .markVerified)
    (fun _ _ => rfl) (fun _ h => h.1) (fun _ _ _ _ _ _ _ _ _ _ _ hmem => nomatch hmem)
    (fun _ h => h) fun _ h _ answered => ⟨Store.grant_live answered, h.2⟩) fun g => ?_
  exact .bind (fun _ p => Registering ks g.id p)
    (.modify fun _ h => ⟨h.1, fun _ => h.2.1, h.2.2⟩) fun _ => .pure fun _ h => h

/-! ## Plug -/

/-- A call that puts no endpoint key and keeps a live lease live keeps a plug registering. -/
theorem Registering.apply {lease : LeaseId} {p : Plane} {c : Store.Call}
    (h : Registering ks lease p)
    (hnone : ∀ t k service zone address, ks.decode k = some ⟨service, zone, .node address⟩ →
      ∀ v b, .put k v b ∉ c.writesAt t)
    (hlive : ∀ s, s.Consistent → Store.LeaseLive p.clock lease s →
      Store.LeaseLive p.clock lease (c.apply s)) :
    Registering ks lease { p with store := c.apply p.store } := by
  obtain ⟨⟨hks, consistent, listed⟩, live, marking⟩ := h
  exact ⟨⟨hks, consistent.apply c, listed.apply_of_none consistent hnone⟩,
    fun pos => hlive _ consistent (live pos), marking⟩

/-- An attempt at a descriptor makes its create and its read and nothing else: what both keep,
it keeps, whether it succeeds or fails. -/
theorem ensureDescriptor_go_keeps {I : Plane → Prop} (d : Descriptor)
    (hks : ∀ p, I p → p.keyspace = ks)
    (hcreate : ∀ p, I p → I { p with store :=
      (p.store.txn p.clock (descriptorCreate (ks.descriptorKey d.service d.zone) d.text)).2 })
    (hget : ∀ p, I p →
      I { p with store := (p.store.get p.clock (ks.descriptorKey d.service d.zone)).2 }) :
    ∀ n, Triple I (ensureDescriptor.go d n) (fun _ => I) I
  | 0 => .throw fun _ h => h
  | n + 1 => by
    unfold ensureDescriptor.go
    refine .get_bind fun p₀ => .assume fun p start => ?_
    obtain ⟨hp, same⟩ := start
    subst same
    rw [hks p hp]
    refine .bind (fun _ => I) (.onStore fun p' h => outcome_of_snd (hcreate p' h.1))
      fun written => ?_
    obtain ⟨created, _⟩ := written
    dsimp only
    refine .ite (fun _ => .pure fun _ h => h) fun _ => ?_
    refine .bind (fun _ => I) (.onStore fun p' h => outcome_of_snd (hget p' h)) fun read => ?_
    obtain ⟨kv, _⟩ := read
    cases kv with
    | none => exact ensureDescriptor_go_keeps d hks hcreate hget n
    | some kv =>
      dsimp only
      split
      · exact .throw fun _ h => h
      · exact .ite (fun _ => .pure fun _ h => h) fun _ => .throw fun _ h => h

/-- A plug whose rows are written and not yet verified: every endpoint is listed or in a zone of
the plug, each zone of the plug has a row the marking verifies, and the marking answers. -/
structure RowsPending (ks : KeySpace) (ds : List Descriptor) (lease : LeaseId) (p : Plane) : Prop where
  keyspace : p.keyspace = ks
  consistent : p.store.Consistent
  live : 0 < lease → Store.LeaseLive p.clock lease p.store
  checked : ∀ d ∈ ds, checkServiceZone d.service d.zone = .ok ()
  endpoints : EndpointsIn ks
    (fun s z => Listed p.index.services s z ∨ ∃ d ∈ ds, d.service = s ∧ d.zone = z) p.store
  rows : ∀ d ∈ ds, Index.Markable ds p.index.services d
  marks : ∃ ix, p.index.markVerified ds = .ok ix

/-- An upsert that answers writes rows for the plug's zones that the marking verifies, and
leaves the rows of every other zone. -/
theorem Registering.upsert {ds : List Descriptor} {lease : LeaseId}
    (hds : ∀ d ∈ ds, checkServiceZone d.service d.zone = .ok ()) :
    Triple (Registering ks lease) (onIndexWrite (·.upsert ds false))
      (fun _ => RowsPending ks ds lease) (Listing ks) := by
  refine .onIndexWrite (fun p ix ⟨⟨hks, consistent, listed⟩, live, marking⟩ hup => ?_)
    fun _ _ h _ => h.listing
  rcases Index.upsert_eq_ok hup with ⟨rfl, rfl⟩ | ⟨-, rfl⟩
  · exact ⟨hks, consistent, live, hds, listed.mono fun _ _ h => .inl h, nofun,
      _, Index.markVerified_nil⟩
  refine ⟨hks, consistent, live, hds, fun k s z a hk held => ?_,
    Index.foldl_upsertRow_markable ds _,
    Index.markVerified_ok ((Index.foldl_upsertRow_answers _ _).2 marking)⟩
  · -- a zone outside the plug keeps its rows
    by_cases mine : ∃ d ∈ ds, d.service = s ∧ d.zone = z
    · exact .inr mine
    · obtain ⟨r, hr, hs, hz, active, verified⟩ := listed k s z a hk held
      refine .inl ⟨r, (Index.foldl_upsertRow_other ds _ fun d hd same => mine ?_).2 hr,
        hs, hz, active, verified⟩
      exact ⟨d, hd, same.1.symm.trans hs, same.2.symm.trans hz⟩

/-- An endpoint write of a plug with its rows written answers: it attaches at most the plug's
lease, which is live, and puts the endpoint key of a zone of the plug. -/
theorem RowsPending.endpoint {ds : List Descriptor} {lease : LeaseId} {policy : AddressPolicy}
    {address value : String} (ha : policy.check address = .ok ()) {d : Descriptor} (hd : d ∈ ds) :
    Triple (RowsPending ks ds lease) (ControlPlane.onStore
        (fun s now => s.txn now (endpointWrite (ks.nodeKey d.service d.zone address) value lease))
        "plug service fail")
      (fun _ => RowsPending ks ds lease) (fun _ => False) := by
  refine Triple.onStore_ok fun p h => ?_
  obtain ⟨r, answered⟩ : ∃ r, (p.store.txn p.clock
      (endpointWrite (ks.nodeKey d.service d.zone address) value lease)).1 = .ok r :=
    Store.txn_ok h.consistent fun k v id hmem => by
      simp only [endpointWrite, List.nil_append, List.mem_singleton, WriteOp.put.injEq,
        LeaseBinding.ofLease] at hmem
      obtain ⟨-, -, hb⟩ := hmem
      split at hb
      · cases hb
        exact h.live (by assumption)
      · cases hb
  refine ⟨r, answered, h.keyspace, h.consistent.apply (.txn p.clock _),
    fun pos => (h.live pos).txn h.consistent _, h.checked, ?_, h.rows, h.marks⟩
  -- the write puts the endpoint key of a zone of the plug
  refine EndpointsIn.apply (c := .txn p.clock _) h.endpoints h.consistent
    fun t _ k s z a hk v b hmem => .inl (.inr ⟨d, hd, ?_⟩)
  obtain ⟨rfl, -, -⟩ : k = ks.nodeKey d.service d.zone address ∧ v = value ∧
      b = LeaseBinding.ofLease lease := by
    simp [Store.Call.writesAt, endpointWrite] at hmem
    exact hmem.2
  rw [ks.decode_nodeKey (h.checked d hd) ha] at hk
  cases hk
  exact ⟨rfl, rfl⟩

/-- Marking the rows verified lists every zone of the plug. -/
theorem RowsPending.markVerified {ds : List Descriptor} {lease : LeaseId} :
    Triple (RowsPending ks ds lease) (onIndexWrite (·.markVerified ds)) (fun _ => Listing ks)
      (fun _ => False) := by
  refine .onIndexWrite (fun p ix h hm => ?_) fun p _ h herr => ?_
  · refine ⟨h.keyspace, h.consistent, fun k s z a hk held => ?_⟩
    rcases h.endpoints k s z a hk held with listed | ⟨d, hd, rfl, rfl⟩
    · exact Listed.marked listed hm
    · exact Index.Markable.listed (h.rows d hd) hm
  · obtain ⟨ix', hm⟩ := h.marks
    rw [hm] at herr
    cases herr

/-- A registration fails only before its rows, with every endpoint listed; once its rows are
written it answers every call, and ends with its zones listed. -/
theorem writeRegistration_listed {policy : AddressPolicy} {ds : List Descriptor}
    {address value : String} {lease : LeaseId}
    (hds : ∀ d ∈ ds, checkServiceZone d.service d.zone = .ok ())
    (ha : policy.check address = .ok ()) :
    Triple (Registering ks lease) (writeRegistration ds address value lease)
      (fun _ => Listing ks) (Listing ks) := by
  unfold writeRegistration
  refine .bind (fun _ => Registering ks lease)
    (Triple.forM (fun _ => Registering ks lease) fun d _ hs => ?_) fun _ => ?_
  · -- a create puts a descriptor key, a read nothing
    have hz := hds d (hs.subset List.mem_cons_self)
    refine (ensureDescriptor_go_keeps d (fun _ h => h.listing.1)
      (fun p h => h.apply (c := .txn p.clock _) (fun t k s z a hk v b hmem => ?_)
        fun _ hc live => live.txn hc _)
      (fun p h => h.apply (c := .get p.clock _) (fun _ _ _ _ _ _ _ _ hmem => List.not_mem_nil hmem)
        fun _ hc live => live.get hc _) maxAttempts).conseq
      (fun _ h => h) (fun _ _ h => h) fun _ h => h.listing
    obtain ⟨-, rfl, -, -⟩ : _ ∧ k = ks.descriptorKey d.service d.zone ∧ v = d.text ∧
        b = .detach := by simpa [Store.Call.writesAt, descriptorCreate] using hmem
    rw [ks.decode_descriptorKey hz] at hk
    cases hk
  refine .bind _ (Registering.upsert hds) fun _ => ?_
  refine .get_bind fun p₀ => .assume fun p start => ?_
  obtain ⟨h, hp⟩ := start
  subst hp
  rw [h.keyspace]
  -- each endpoint key is written under the live lease; the marking then lists the zones
  refine .bind (fun _ => RowsPending ks ds lease)
    ((Triple.forM (fun _ => RowsPending ks ds lease) fun d _ hs => ?_).conseq
      (fun _ h => h.1) (fun _ _ h => h) fun _ h => False.elim h)
    fun _ => RowsPending.markVerified.conseq (fun _ h => h) (fun _ _ h => h) fun _ h => False.elim h
  exact .bind _ (RowsPending.endpoint ha (hs.subset List.mem_cons_self)) fun _ => .pure fun _ h => h

/-- A plug, failed or not, leaves every endpoint listed: it fails only before it writes rows, and
then has put no endpoint key; the release of a fresh lease deletes keys only. -/
theorem plugAll_listed (descs : List Descriptor) (endpoint : Endpoint) (ttl : Int)
    (lease : LeaseId) :
    Triple (ListingMarked ks) (plugAll descs endpoint ttl lease) (fun _ => Listing ks)
      (Listing ks) := by
  unfold plugAll
  refine .recorded ?_ (fun _ _ _ h => h) (fun _ _ h => h)
  refine .get_bind fun p₀ => .check_bind (fun ha => ?_) (fun _ h => h.1.1)
  extract_lets value checked
  have hchecked : ∀ u, Triple (ListingMarked ks) (checked u) (fun _ => Listing ks) (Listing ks) := by
    intro u
    refine .check_bind (fun _ => ?_) (fun _ h => h.1)
    refine .ofExcept_bind (fun ds hds => ?_) (fun _ h => h.1)
    extract_lets registered
    have hregistered : ∀ x : LeaseGrant × Bool, Triple (Registering ks x.1.id) (registered x)
        (fun _ => Listing ks) (Listing ks) := by
      rintro ⟨grant, fresh⟩
      refine .tryCatch (Listing ks) (.bind _ (writeRegistration_listed
        (mapM_prepareDescriptor_checked hds) ha) fun _ => .pure fun _ h => h) fun _ => ?_
      extract_lets rethrow
      exact .ite (fun _ => .bind _ (releaseLease_listed _) fun _ => .throw fun _ h => h) fun _ =>
        .throw fun _ h => h
    -- the lease: renewed, granted, or none
    exact .ite (fun _ => .bind _ (renew_registering lease) fun remaining =>
        .pure_bind (hregistered (⟨lease, remaining⟩, false)))
      fun _ => .ite (fun _ => .bind _ (grant_registering ttl) fun g =>
          .pure_bind (hregistered (g, true)))
        fun _ => .pure_bind ((hregistered (⟨0, ttl⟩, false)).conseq
          (fun _ h => ⟨h.1, fun pos => absurd pos (lt_irrefl 0), h.2⟩) (fun _ _ h => h) fun _ h => h)
  refine .ite (fun _ => .throw_bind fun _ h => h.1.1) fun _ => ?_
  exact (hchecked ()).conseq (fun _ h => h.1) (fun _ _ h => h) fun _ h => h

/-! ## The index's health -/

/-- The index of the plane is as open as `ix` and fails the calls `ix` fails. -/
def HealthOf (ix : Index) (p : Plane) : Prop := p.index.closed = ix.closed ∧ p.index.faults = ix.faults

theorem keptByRegistry_healthOf {ix : Index} : KeptByRegistry ks (HealthOf ix) where
  call _ _ _ _ h := h
  softDelete _ _ _ _ _ hok h :=
    ⟨(Index.softDelete_advances hok).closed.trans h.1, (Index.softDelete_advances hok).faults.trans h.2⟩
  count _ _ h := h

/-- A plane of keyspace `ks` whose index is as open as `ix` and fails the calls `ix` fails. -/
def Steady (ks : KeySpace) (ix : Index) (p : Plane) : Prop := p.keyspace = ks ∧ HealthOf ix p

section

variable {ix : Index} {α : Type}

theorem Steady.onStore {call : Store → Nat → Except StoreError α × Store} {ctx : String} :
    Triple (Steady ks ix) (ControlPlane.onStore call ctx) (fun _ => Steady ks ix) (Steady ks ix) :=
  Triple.onStore fun _ h => outcome_of_snd ⟨h.1, h.2⟩

theorem Steady.onIndexWrite {call : Index → Except Error Index}
    (keeps : ∀ ix₀ ix₁, call ix₀ = .ok ix₁ → ix₁.closed = ix₀.closed ∧ ix₁.faults = ix₀.faults) :
    Triple (Steady ks ix) (ControlPlane.onIndexWrite call) (fun _ => Steady ks ix) (Steady ks ix) :=
  .onIndexWrite (fun _ _ ⟨hks, closed, faults⟩ hok =>
    ⟨hks, (keeps _ _ hok).1.trans closed, (keeps _ _ hok).2.trans faults⟩) fun _ _ h _ => h

theorem Steady.grant (ttl : Int) :
    Triple (Steady ks ix) (grantLease ttl) (fun _ => Steady ks ix) (Steady ks ix) := by
  unfold ControlPlane.grantLease
  exact .check_bind (fun _ => .bind _ Steady.onStore fun _ =>
    .bind _ (.modify fun _ h => h) fun _ => .pure fun _ h => h) fun _ h => h

theorem Steady.release (id : LeaseId) :
    Triple (Steady ks ix) (releaseLease id) (fun _ => Steady ks ix) (Steady ks ix) := by
  unfold ControlPlane.releaseLease ControlPlane.revokeLease
  exact .tryCatch (Steady ks ix) (.bind _ Steady.onStore fun _ => .modify fun _ h => h) fun _ =>
    .pure fun _ h => h

/-- A plug keeps its keyspace and its index's health: its store calls leave the index, and its
upsert and marking change rows only. -/
theorem plugAll_steady (descs : List Descriptor) (endpoint : Endpoint) (ttl : Int)
    (lease : LeaseId) :
    Triple (Steady ks ix) (plugAll descs endpoint ttl lease) (fun _ => Steady ks ix)
      (Steady ks ix) := by
  unfold plugAll
  refine .recorded ?_ (fun _ _ _ h => h) (fun _ _ h => h)
  refine .get_bind fun _ => .check_bind (fun _ => ?_) (fun _ h => h.1)
  extract_lets value checked
  have hchecked : ∀ u, Triple (Steady ks ix) (checked u) (fun _ => Steady ks ix) (Steady ks ix) := by
    intro u
    refine .check_bind (fun _ => ?_) (fun _ h => h)
    refine .ofExcept_bind (fun ds _ => ?_) (fun _ h => h)
    extract_lets registered
    have hregistered : ∀ x : LeaseGrant × Bool, Triple (Steady ks ix) (registered x)
        (fun _ => Steady ks ix) (Steady ks ix) := by
      rintro ⟨grant, fresh⟩
      refine .tryCatch (Steady ks ix) (.bind _ ?_ fun _ => .pure fun _ h => h) fun _ => ?_
      · -- the descriptor attempts, the upsert, the endpoint writes, the marking
        unfold writeRegistration
        refine .bind (fun _ => Steady ks ix) (Triple.forM (fun _ => Steady ks ix) fun d _ _ =>
          ensureDescriptor_go_keeps d (fun _ h => h.1) (fun _ h => ⟨h.1, h.2⟩)
            (fun _ h => ⟨h.1, h.2⟩) maxAttempts) fun _ => ?_
        refine .bind (fun _ => Steady ks ix) (Steady.onIndexWrite fun _ _ => Index.upsert_health)
          fun _ => .get_bind fun _ => ?_
        refine .bind (fun _ => Steady ks ix) ((Triple.forM (fun _ => Steady ks ix) fun _ _ _ =>
          .bind _ Steady.onStore fun _ => .pure fun _ h => h).conseq
            (fun _ h => h.1) (fun _ _ h => h) fun _ h => h) fun _ => ?_
        exact Steady.onIndexWrite fun _ _ hm =>
          ⟨(Index.markVerified_advances hm).1.closed, (Index.markVerified_advances hm).1.faults⟩
      · exact .ite (fun _ => .bind _ (Steady.release _) fun _ => .throw fun _ h => h)
          fun _ => .throw fun _ h => h
    -- the lease: renewed, granted, or none
    exact .ite (fun _ => .bind _ Steady.onStore fun remaining =>
        .pure_bind (hregistered (⟨lease, remaining⟩, false)))
      fun _ => .ite (fun _ => .bind _ (Steady.grant ttl) fun g => .pure_bind (hregistered (g, true)))
        fun _ => .pure_bind (hregistered (⟨0, ttl⟩, false))
  refine .ite (fun _ => .throw_bind fun _ h => h.1) fun _ => ?_
  exact (hchecked ()).conseq (fun _ h => h.1) (fun _ _ h => h) fun _ h => h

end

/-- No operation of a run changes whether the database is open or which index calls fail. -/
theorem RegistryOp.run_health (op : RegistryOp) {p : Plane} (hc : p.store.Consistent) :
    (op.run p).index.closed = p.index.closed ∧ (op.run p).index.faults = p.index.faults := by
  have start : Framed p.keyspace (HealthOf p.index) p := ⟨rfl, hc, rfl, rfl⟩
  cases op with
  | plugAll descs endpoint ttl lease =>
    exact ((plugAll_steady descs endpoint ttl lease).snd
      (show Steady p.keyspace p.index p from ⟨rfl, rfl, rfl⟩)).2
  | unplug service zone address =>
    exact ((unplug_frame keptByRegistry_healthOf service zone address).snd start).2.2
  | update service zone address endpoint =>
    exact ((update_frame keptByRegistry_healthOf service zone address endpoint).snd start).2.2
  | keepAlive id => exact ((keepAlive_frame keptByRegistry_healthOf id).snd start).2.2
  | deleteService service zone =>
    exact ((deleteService_frame keptByRegistry_healthOf service zone).snd start).2.2
  | tick now => exact ⟨rfl, rfl⟩
  | reap => exact ⟨rfl, rfl⟩

/-! ## Runs -/

/-- Every step of a registry run keeps every endpoint listed, while the index answers the
marking. -/
theorem RegistryOp.run_listed (op : RegistryOp) {p : Plane} (h : Listing ks p)
    (marking : p.index.Answers .markVerified) : Listing ks (op.run p) := by
  cases op with
  | plugAll descs endpoint ttl lease =>
    exact (plugAll_listed descs endpoint ttl lease).snd ⟨h, marking⟩
  | unplug service zone address => exact (unplug_listed service zone address).snd h
  | update service zone address endpoint =>
    exact (update_listed service zone address endpoint).snd h
  | keepAlive id => exact (keepAlive_listed id).snd h
  | deleteService service zone => exact (deleteService_listed service zone).snd h
  | tick now => exact h
  | reap =>
    -- the reaper's sweep only removes keys
    obtain ⟨hks, consistent, listed⟩ := h
    exact ⟨hks, consistent.apply (.reap p.clock),
      EndpointsIn.apply_of_none (c := .reap p.clock) listed consistent
        fun _ _ _ _ _ _ _ _ hmem => nomatch hmem⟩

/-- Every plane of a registry run whose index answers the marking has every endpoint listed, in
the keyspace it started in: the index answered the marking all along the run. -/
theorem RegistryRun.listed {p : Plane} (h : RegistryRun p) :
    p.index.Answers .markVerified → Listing p.keyspace p := by
  induction h with
  | start p historyLimit channelCapacity =>
    exact fun _ => ⟨rfl, Store.consistent_make historyLimit channelCapacity,
      fun _ _ _ _ _ held => nomatch held⟩
  | @step p op run ih =>
    intro marking
    have health := op.run_health run.registryKeys.consistent
    have marked : p.index.Answers .markVerified :=
      (Index.answers_iff_of_eq health.1 health.2).1 marking
    obtain ⟨hks, consistent, listed⟩ := op.run_listed (ih marked) marked
    exact ⟨rfl, consistent, hks ▸ listed⟩

end

/-- Registry operations run one after another from an empty store, failed or not, with the
clock moving and the reaper sweeping between them, leave the zone of every endpoint key with
an active, verified row: one that search lists, when the index answers the marking of rows. -/
theorem runs_keep_endpoints_listed :
    ∀ p, RegistryRun p → p.index.Answers .markVerified → EndpointsListed p.keyspace p :=
  fun _ run marking => (run.listed marking).2.2

/-- A plug and then an unplug of its endpoint, on a fresh plane. -/
theorem plug_then_unplug_keeps_endpoints_listed :
    let p := (RegistryOp.unplug "orders:1.0" "dc-1" "10.0.0.5:9000").run
      ((RegistryOp.plugAll [{ service := "orders:1.0", zone := "dc-1", kind := "grpc" }]
        { address := "10.0.0.5:9000" } 0 0).run { store := Store.make 0 0 })
    RegistryRun p ∧ p.index.Answers .markVerified ∧ EndpointsListed p.keyspace p := by
  intro p
  have run : RegistryRun p := .step _ (.step _ (.start {} 0 0))
  have marking : p.index.Answers .markVerified := by decide +kernel
  exact ⟨run, marking, runs_keep_endpoints_listed p run marking⟩

/-! ## An unplug interleaved with a plug -/

/-- The first step of an unplug: it deletes the endpoint key and, when one was deleted, reads
whether the zone has no endpoint key left. -/
def unplugProbe (service zone address : String) : Action Bool := do
  let zone := zoneOrDefault zone
  check (checkServiceZone service zone)
  let p ← get
  check (p.policy.check address)
  let (deleted, _) ← onStore (fun s now => s.delete now (p.keyspace.nodeKey service zone address))
    "delete key fail"
  if deleted == 0 then return false
  let rest := { RangeRequest.startingWith (p.keyspace.nodeScanStart service zone) with
                limit := 1, keysOnly := true }
  let r ← onStore (fun s now => s.read now rest) "query fail"
  return r.kvs.isEmpty

/-- The second step of an unplug: when the probe found the zone empty, its rows are
soft-deleted. -/
def unplugSettle (service zone : String) (last : Bool) : Action Unit := do
  if last then
    let _ ← onIndex (·.softDelete service (some (zoneOrDefault zone)))

theorem ite_bind_action {α β : Type} {c : Prop} [Decidable c] (a b : Action α)
    (f : α → Action β) : (if c then a else b) >>= f = if c then a >>= f else b >>= f := by
  split <;> rfl

theorem unplug_eq (service zone address : String) :
    unplug service zone address =
      recorded .unplug (unplugProbe service zone address >>= unplugSettle service zone) := by
  unfold unplug unplugProbe unplugSettle
  simp only [bind_assoc, ite_bind_action, pure_bind, Bool.false_eq_true, if_false]

/-- A plug that runs between an unplug's probe and its settling keeps its endpoint and loses its
zone: the probe of the unplug of the only endpoint finds the zone empty, the plug writes a new
endpoint and verifies the zone's row, and the settling soft-deletes that row. Search then finds
nothing. -/
theorem interleaved_unplug_hides_endpoint :
    let d : Descriptor :=
      { service := "orders:1.0", zone := "dc-1", kind := "grpc", proto := "v1" }
    let plugged := (RegistryOp.plugAll [d] { address := "10.0.0.5:9000" } 0 0).run
      { store := Store.make 0 0 }
    let probed := (unplugProbe "orders:1.0" "dc-1" "10.0.0.5:9000").exec plugged
    let replugged := (RegistryOp.plugAll [d] { address := "10.0.0.6:9000" } 0 0).run probed.2
    let settled := ((unplugSettle "orders:1.0" "dc-1" true).exec replugged).2
    RegistryRun plugged ∧ probed.1.toOption = some true ∧
      (settled.store.held (KeySpace.standard.nodeKey "orders:1.0" "dc-1" "10.0.0.6:9000")).isSome ∧
      ¬ Listed settled.index.services "orders:1.0" "dc-1" ∧
      (settled.index.search "orders" 0 10).toOption.map (·.total) = some 0 :=
  ⟨.step _ (.start {} 0 0), by decide +kernel⟩

end ControlPlane
