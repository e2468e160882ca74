import ControlPlane.Proofs.Reconcile.Reading

/-!
# Repairing zones from the store

In fix mode a pass rewrites the row of each missing zone from the descriptor the store holds for
it: the stored descriptor, renamed to the zone's service and zone and hashed, is upserted
verified. A zone whose descriptor key vanished or holds a value that does not read is skipped.

1. An upsert keeps one row per zone (`Index.Schema.upsertRow`), and a row written verified is
   verified (`Index.upsertRow_verified`).
2. `Repaired desc? zs ix ix'`: `ix'` is `ix` with the zones of `zs` repaired from `desc?`. It
   holds of one repair (`fixZone_exec`) and composes (`Repaired.cons`), so it holds of the
   repairs of a whole pass (`repairs_exec`).
3. After a repair a zone has a usable row exactly when it had one, or was repaired
   (`Repaired.hasUsableRow_iff`).
-/

namespace ControlPlane

open ControlPlane.Action

namespace Index

variable {ix : Index} {now : Nat} {verified : Bool} {d : Descriptor}

/-- An upsert keeps one row per zone: it rewrites the rows of the descriptor's zone in place, or
appends one for a zone that had none. -/
theorem keyed_upsertRow (h : (ix.services.map ServiceRow.zoneKey).Nodup) :
    ((ix.upsertRow now verified d).services.map ServiceRow.zoneKey).Nodup := by
  rcases upsertRow_services ix now verified d with
    ⟨f, hf, -, hrows⟩ | ⟨absent, fresh, -, hs, hz, -, -, hrows⟩
  · have zones : ServiceRow.zoneKey ∘ f = ServiceRow.zoneKey := funext fun r => by
      simp [ServiceRow.zoneKey, (hf r).2.1, (hf r).2.2.1]
    rwa [hrows, List.map_map, zones]
  · rw [hrows, List.map_append, List.nodup_append]
    refine ⟨h, List.nodup_singleton _, fun a ha b hb same => ?_⟩
    obtain ⟨r, hr, rfl⟩ := List.mem_map.1 ha
    obtain rfl : b = fresh.zoneKey := by simpa using hb
    have : r.service = d.service ∧ r.zone = d.zone := by
      simpa [ServiceRow.zoneKey, hs, hz] using same
    exact absent r hr this

theorem Schema.upsertRow (h : ix.Schema) : (ix.upsertRow now verified d).Schema :=
  ⟨h.numbered.upsertRow, keyed_upsertRow h.keyed⟩

/-- Every row of the descriptor's zone that an upsert leaves is verified when it wrote
verified. -/
theorem upsertRow_verified :
    ∀ r ∈ (ix.upsertRow now true d).services, r.service = d.service → r.zone = d.zone →
      r.verified = true := by
  unfold upsertRow
  dsimp only
  split
  · intro r hr hs hz
    obtain ⟨r₀, -, rfl⟩ := List.mem_map.1 hr
    -- a row of another zone is left as it was, so only a row of the zone has the zone
    by_cases hit : r₀.service = d.service ∧ r₀.zone = d.zone
    · simp [hit]
    · have miss : (r₀.service == d.service && r₀.zone == d.zone) = false := by simpa using hit
      simp only [miss, Bool.false_eq_true, if_false] at hs hz
      exact absurd ⟨hs, hz⟩ hit
  · rename_i absent
    intro r hr hs hz
    rcases List.mem_append.1 hr with hr | hr
    · exact absurd (List.any_eq_true.2 ⟨r, hr, by simp [hs, hz]⟩) absent
    · rw [List.mem_singleton.1 hr]

end Index

/-! ## Repairs -/

/-- The hash a repaired row of zone `z` carries: that of the stored descriptor `d` renamed to
the zone's service and zone. -/
def repairHash (d : Descriptor) (z : ZoneKey) : String :=
  ({ d with service := z.1, zone := z.2 } : Descriptor).computeHash

/-- `ix'` is `ix` with the zones of `zs` repaired from the descriptors `desc?` gives: each zone of
`zs` whose descriptor reads has rows, each active and verified under the hash of that descriptor
renamed to the zone; every row of another zone is as it was; and when no zone's descriptor reads,
nothing changed. -/
structure Repaired (desc? : ZoneKey → Option Descriptor) (zs : List ZoneKey) (ix ix' : Index) :
    Prop where
  written : ∀ z ∈ zs, ∀ d, desc? z = some d → ix'.HasRow z ∧ ∀ r ∈ ix'.services, r.zoneKey = z →
    r.status = .active ∧ r.verified = true ∧ r.contentHash = repairHash d z
  kept : ∀ r, (r.zoneKey ∈ zs → desc? r.zoneKey = none) → (r ∈ ix'.services ↔ r ∈ ix.services)
  untouched : (∀ z ∈ zs, desc? z = none) → ix' = ix
  schema : ix.Schema → ix'.Schema
  closed : ix'.closed = ix.closed
  faults : ix'.faults = ix.faults

namespace Repaired

variable {desc? : ZoneKey → Option Descriptor}

theorem nil (ix : Index) : Repaired desc? [] ix ix :=
  ⟨nofun, fun _ _ => Iff.rfl, fun _ => rfl, id, rfl, rfl⟩

/-- A zone whose descriptor does not read is repaired by changing nothing. -/
theorem of_none {z : ZoneKey} (hd : desc? z = none) (ix : Index) : Repaired desc? [z] ix ix where
  written y hy d hy' := by
    rw [List.mem_singleton.1 hy, hd] at hy'
    cases hy'
  kept _ _ := Iff.rfl
  untouched _ := rfl
  schema := id
  closed := rfl
  faults := rfl

/-- A zone whose descriptor reads as `d` is repaired by the upsert, verified and at a new reading
of the index's clock, of `d` renamed to the zone and hashed. -/
theorem of_upsert {z : ZoneKey} {d : Descriptor} (hd : desc? z = some d) (ix : Index) :
    Repaired desc? [z] ix (({ ix with clock := ix.clock + 1 } : Index).upsertRow (ix.clock + 1) true
      ({ d with service := z.1, zone := z.2 } : Descriptor).hashed) where
  written y hy d' hd' := by
    obtain rfl := List.mem_singleton.1 hy
    obtain rfl : d' = d := Option.some.inj (hd'.symm.trans hd)
    obtain ⟨⟨r, hr, hs, hz⟩, pending⟩ := @Index.upsertRow_zone { ix with clock := ix.clock + 1 }
      (ix.clock + 1) true ({ d' with service := y.1, zone := y.2 } : Descriptor).hashed
    refine ⟨⟨r, hr, Prod.ext hs hz⟩, fun r' hr' hz' => ?_⟩
    have hs' : r'.service = y.1 := congrArg Prod.fst hz'
    have hz'' : r'.zone = y.2 := congrArg Prod.snd hz'
    obtain ⟨active, hash⟩ := pending r' hr' hs' hz''
    exact ⟨active, Index.upsertRow_verified r' hr' hs' hz'', hash⟩
  kept r hr := by
    -- a row of another zone: the upsert leaves it
    have other : r.zoneKey ≠ z := fun same => by
      have := hr (List.mem_singleton.2 same)
      rw [same, hd] at this
      cases this
    apply Index.mem_upsertRow_of_other
    rintro ⟨hs, hz⟩
    exact other (Prod.ext hs hz)
  untouched none := by
    have := none z List.mem_cons_self
    rw [hd] at this
    cases this
  schema h := Index.Schema.upsertRow ⟨⟨h.numbered.sorted, h.numbered.positive, h.numbered.below,
    h.numbered.nextPositive⟩, h.keyed⟩
  closed := Index.upsertRow_closed
  faults := Index.upsertRow_faults

/-- A repair of one zone followed by repairs of others is a repair of them all: a later repair
of another zone leaves the rows of the first as they are. -/
theorem cons {z : ZoneKey} {zs : List ZoneKey} {ix ix₁ ix' : Index}
    (first : Repaired desc? [z] ix ix₁) (rest : Repaired desc? zs ix₁ ix') :
    Repaired desc? (z :: zs) ix ix' where
  written y hy d hd := by
    by_cases later : y ∈ zs
    · exact rest.written y later d hd
    -- the rows of `y` are the ones the first repair left
    have same : ∀ r, r.zoneKey = y → (r ∈ ix'.services ↔ r ∈ ix₁.services) := fun r hr =>
      rest.kept r fun hmem => absurd (hr ▸ hmem) later
    have hy : y = z := by simpa [later] using hy
    subst hy
    obtain ⟨⟨r, hr, hz⟩, good⟩ := first.written y List.mem_cons_self d hd
    exact ⟨⟨r, (same r hz).2 hr, hz⟩, fun r' hr' hz' => good r' ((same r' hz').1 hr') hz'⟩
  kept r hr := by
    rw [rest.kept r fun hmem => hr (List.mem_cons_of_mem _ hmem)]
    exact first.kept r fun hmem => hr (List.mem_cons.2 (.inl (List.mem_singleton.1 hmem)))
  untouched none := by
    rw [rest.untouched fun y hy => none y (List.mem_cons_of_mem _ hy)]
    exact first.untouched fun y hy => none y (List.mem_cons.2 (.inl (List.mem_singleton.1 hy)))
  schema h := rest.schema (first.schema h)
  closed := rest.closed.trans first.closed
  faults := rest.faults.trans first.faults

theorem answers {desc? : ZoneKey → Option Descriptor} {zs : List ZoneKey} {ix ix' : Index}
    (h : Repaired desc? zs ix ix') {call : IndexCall} : ix'.Answers call ↔ ix.Answers call :=
  Index.answers_iff_of_eq h.closed h.faults

/-- After repairs, a zone has a usable row exactly when it had one before, or was repaired. -/
theorem hasUsableRow_iff {zs : List ZoneKey} {ix ix' : Index} (h : Repaired desc? zs ix ix')
    (z : ZoneKey) : ix'.HasUsableRow z ↔ ix.HasUsableRow z ∨ (z ∈ zs ∧ (desc? z).isSome) := by
  by_cases repaired : z ∈ zs ∧ (desc? z).isSome
  · obtain ⟨hz, found⟩ := repaired
    obtain ⟨d, hd⟩ := Option.isSome_iff_exists.1 found
    obtain ⟨⟨r, hr, hrz⟩, good⟩ := h.written z hz d hd
    exact iff_of_true ⟨r, hr, hrz, .inr (good r hr hrz).2.1⟩ (.inr ⟨hz, found⟩)
  · -- the zone's rows are the ones it had
    have same : ∀ r, r.zoneKey = z → (r ∈ ix'.services ↔ r ∈ ix.services) := fun r hr =>
      h.kept r fun hmem => by
        rw [hr] at hmem ⊢
        simpa [hmem] using repaired
    simp only [repaired, or_false, Index.HasUsableRow]
    constructor
    · rintro ⟨r, hr, hz, used⟩
      exact ⟨r, (same r hz).1 hr, hz, used⟩
    · rintro ⟨r, hr, hz, used⟩
      exact ⟨r, (same r hz).2 hr, hz, used⟩

end Repaired

/-! ## The repairs of a pass -/

variable {q : Plane}

theorem storedDescriptor?_atRest (rest : Store.AtRest q.clock q.store) (z : ZoneKey) :
    q.storedDescriptor? z =
      (q.store.find? (q.keyspace.descriptorKey z.1 z.2)).bind fun kv => Descriptor.read? kv.value := by
  unfold Plane.storedDescriptor?
  rw [Store.expire_atRest rest, Store.held]
  cases q.store.find? (q.keyspace.descriptorKey z.1 z.2) <;> rfl

/-- One repair on a plane whose store is at rest and whose index answers its upserts: it answers
whether the zone's stored descriptor reads, and repairs the zone from it. -/
theorem fixZone_exec (rest : Store.AtRest q.clock q.store) (hopen : q.index.Answers .upsertVerified)
    (z : ZoneKey) :
    ∃ ix', (fixZone z).exec q = (.ok (q.storedDescriptor? z).isSome, { q with index := ix' }) ∧
      Repaired q.storedDescriptor? [z] q.index ix' := by
  have stored := storedDescriptor?_atRest rest z
  unfold fixZone
  rw [exec_get_bind, exec_bind, exec_onStore, Store.get_atRest rest, stored]
  dsimp only
  cases hkv : q.store.find? (q.keyspace.descriptorKey z.1 z.2) with
  | none =>
    refine ⟨q.index, rfl, Repaired.of_none ?_ q.index⟩
    rw [stored, hkv]
    rfl
  | some kv =>
    dsimp only
    cases hd : Descriptor.read? kv.value with
    | none =>
      refine ⟨q.index, ?_, Repaired.of_none ?_ q.index⟩
      · rw [Option.bind_some, hd]
        rfl
      · rw [stored, hkv, Option.bind_some, hd]
    | some d =>
      dsimp only
      rw [exec_bind, exec_onIndexWrite, Index.upsert_ok (show q.index.Answers (.upsertOf true) from hopen)]
      simp only [List.isEmpty_cons, Bool.false_eq_true, if_false, List.foldl_cons, List.foldl_nil]
      refine ⟨_, ?_, Repaired.of_upsert (d := d) ?_ q.index⟩
      · rw [exec_pure, Option.bind_some, hd]
        rfl
      · rw [stored, hkv, Option.bind_some, hd]

/-- The repairs of a pass, one zone after another from a count `n`, on a plane whose store is at
rest and whose index answers its upserts: they count the zones whose stored descriptor reads, and
repair the zones from the store. -/
theorem repairs_exec :
    ∀ (zs : List ZoneKey) (n : Nat) (q : Plane), Store.AtRest q.clock q.store →
      q.index.Answers .upsertVerified →
      ∃ ix', (zs.foldlM (fun n k => do pure (if (← fixZone k) then n + 1 else n)) n).exec q =
          (.ok (n + (zs.filter fun z => (q.storedDescriptor? z).isSome).length),
            { q with index := ix' }) ∧
        Repaired q.storedDescriptor? zs q.index ix'
  | [], n, q, _, _ => ⟨q.index, rfl, .nil q.index⟩
  | z :: zs, n, q, rest, hopen => by
    obtain ⟨ix₁, hfix, first⟩ := fixZone_exec rest hopen z
    -- the first repair touches only the index, so the others see the same store
    obtain ⟨ix', hrest, others⟩ := repairs_exec zs
      (if (q.storedDescriptor? z).isSome then n + 1 else n) { q with index := ix₁ } rest
      (first.answers.2 hopen)
    refine ⟨ix', ?_, first.cons others⟩
    rw [List.foldlM_cons, exec_bind, exec_bind, hfix]
    dsimp only
    rw [exec_pure]
    dsimp only
    have same : ({ q with index := ix₁ } : Plane).storedDescriptor? = q.storedDescriptor? := rfl
    rw [hrest, same, List.filter_cons]
    by_cases found : (q.storedDescriptor? z).isSome
    · simp only [found, if_true, List.length_cons]
      congr 2
      omega
    · simp only [found, Bool.false_eq_true, if_false]

end ControlPlane
