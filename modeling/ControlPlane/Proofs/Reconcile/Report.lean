import ControlPlane.Proofs.Reconcile.Repair
import ControlPlane.Proofs.Registry.Reconciled
import Mathlib.Data.Set.Card

/-!
# What a reconcile pass reports

Over an open index that keeps its schema and a page size that lets a page hold a row, a pass in
every mode answers. It reads every row and every zone the store holds a descriptor for, and
reports the exact difference of the two sides (`reconcile_reports_set_difference`):

* the number of stored zones and of rows;
* as missing, the stored zones without a usable row, ascending;
* in reverse mode, as orphans, the zones with a row and no stored descriptor, ascending.

It leaves the store as a read at its clock leaves it, and only fix mode writes the index.

In fix mode the pass repairs the missing zones from the store, and a second pass finds nothing
more to repair and changes nothing (`reconcile_fix_converges`).

1. `reconcilePass_outcome`: the whole pass, mode by mode, read off the reading and repair
   lemmas.
2. `ZoneKey.Ascending.eq_of_mem_iff`: an ascending list is fixed by its members, so two passes
   over one store read the same zones.
3. The two main theorems, each a short last step over these.
-/

namespace ControlPlane

open ControlPlane.Action

/-- An ascending list of zones is fixed by its members. -/
theorem ZoneKey.Ascending.eq_of_mem_iff :
    ∀ {zs ys : List ZoneKey}, Ascending zs → Ascending ys → (∀ z, z ∈ zs ↔ z ∈ ys) → zs = ys
  | [], [], _, _, _ => rfl
  | [], y :: _, _, _, same => absurd ((same y).2 List.mem_cons_self) List.not_mem_nil
  | z :: _, [], _, _, same => absurd ((same z).1 List.mem_cons_self) List.not_mem_nil
  | z :: zs, y :: ys, hz, hy, same => by
    obtain ⟨zBelow, zsUp⟩ := List.pairwise_cons.1 hz
    obtain ⟨yBelow, ysUp⟩ := List.pairwise_cons.1 hy
    -- each head is the least member of both lists, so the heads agree
    have heads : z = y := by
      rcases List.mem_cons.1 ((same z).1 List.mem_cons_self) with h | hzy
      · exact h
      rcases List.mem_cons.1 ((same y).2 List.mem_cons_self) with h | hyz
      · exact h.symm
      have := lt_asymm ((lt_iff _ _).1 (yBelow z hzy)) ((lt_iff _ _).1 (zBelow y hyz))
      exact this.elim
    subst heads
    -- below the head, the members are the same
    have rest : ∀ x, x ∈ zs ↔ x ∈ ys := fun x => by
      constructor
      · intro hx
        have ne : x ≠ z := fun h => (lt_irrefl (toLex x)) ((lt_iff _ _).1 (h ▸ zBelow x hx))
        exact (List.mem_cons.1 ((same x).1 (List.mem_cons_of_mem _ hx))).resolve_left ne
      · intro hx
        have ne : x ≠ z := fun h => (lt_irrefl (toLex x)) ((lt_iff _ _).1 (h ▸ yBelow x hx))
        exact (List.mem_cons.1 ((same x).2 (List.mem_cons_of_mem _ hx))).resolve_left ne
    rw [eq_of_mem_iff zsUp ysUp rest]

theorem ReconcileMode.beq_eq_decide (a b : ReconcileMode) : (a == b) = decide (a = b) := by
  cases a <;> cases b <;> rfl

/-- A row the repairs added is one they wrote: of a repaired zone whose descriptor reads,
active, verified, and hashed from that descriptor renamed to the zone. -/
theorem Repaired.new_row {desc? : ZoneKey → Option Descriptor} {zs : List ZoneKey} {ix ix' : Index}
    (h : Repaired desc? zs ix ix') {r : ServiceRow} (hr : r ∈ ix'.services)
    (fresh : r ∉ ix.services) :
    ∃ d, desc? r.zoneKey = some d ∧ r.status = .active ∧ r.verified = true ∧
      r.contentHash = repairHash d r.zoneKey := by
  -- a row of a zone the repairs left alone would be a row of before
  have repaired : r.zoneKey ∈ zs ∧ (desc? r.zoneKey).isSome := by
    by_contra left
    exact fresh ((h.kept r fun hz => by simpa [hz] using left).1 hr)
  obtain ⟨d, hd⟩ := Option.isSome_iff_exists.1 repaired.2
  exact ⟨d, hd, (h.written _ repaired.1 d hd).2 r hr rfl⟩

/-- Repairing the zones of `zones` without a usable row leaves without one exactly those whose
descriptor does not read. -/
theorem Repaired.filter_unusable {desc? : ZoneKey → Option Descriptor} {ix ix' : Index}
    (zones : List ZoneKey)
    (h : Repaired desc? (zones.filter fun z => !decide (ix.HasUsableRow z)) ix ix') :
    zones.filter (fun z => !decide (ix'.HasUsableRow z)) =
      (zones.filter fun z => !decide (ix.HasUsableRow z)).filter fun z => (desc? z).isNone := by
  rw [List.filter_filter]
  apply List.filter_congr
  intro z hz
  have after := h.hasUsableRow_iff z
  rw [List.mem_filter] at after
  by_cases usable : ix.HasUsableRow z
  · simp [after, usable]
  · cases hd : desc? z <;> simp [after, usable, hz, hd]

variable {p : Plane}

/-- The orphans a reverse pass collects from the rows read: the zones with a row and no stored
descriptor, ascending. -/
theorem orphans_spec (zones : List ZoneKey) (ix : Index) :
    ZoneKey.Ascending (((ix.services.map ServiceRow.state).filter fun r => !zones.contains r.zone).foldl
      (fun acc r => insertZoneKey r.zone acc) []) ∧
    ∀ z, z ∈ ((ix.services.map ServiceRow.state).filter fun r => !zones.contains r.zone).foldl
      (fun acc r => insertZoneKey r.zone acc) [] ↔ ix.HasRow z ∧ z ∉ zones := by
  obtain ⟨sorted, mem⟩ := foldl_inserts (g := fun r : RowState => some r.zone) (fun _ _ => rfl)
    ((ix.services.map ServiceRow.state).filter fun r => !zones.contains r.zone) [] List.Pairwise.nil
  refine ⟨sorted, fun z => ?_⟩
  rw [mem]
  simp only [List.not_mem_nil, false_or, List.mem_filter, List.mem_map, Option.some.injEq,
    Bool.not_eq_true', ← Bool.not_eq_true, List.contains_iff_mem, Index.HasRow]
  constructor
  · rintro ⟨_, ⟨⟨r, hr, rfl⟩, absent⟩, rfl⟩
    exact ⟨⟨r, hr, rfl⟩, absent⟩
  · rintro ⟨⟨r, hr, rfl⟩, absent⟩
    exact ⟨r.state, ⟨⟨r, hr, rfl⟩, absent⟩, rfl⟩

/-- A pass in any mode, over a consistent store, an index that keeps its schema and answers the
pass's calls, and a page size that lets a page hold a row. It reads the zones the store holds descriptors for, ascending,
and reports their number, the number of rows, as missing the zones without a usable row, and in
reverse mode the orphans. In fix mode it repairs the missing zones from the store and counts
those whose descriptor reads. It leaves the store as a read at its clock leaves it, and writes
the index only in fix mode. -/
theorem reconcilePass_outcome (mode : ReconcileMode) (hc : p.store.Consistent)
    (schema : p.index.Schema) (hopen : p.index.Answers .pageAfter)
    (hfix : mode = .fix → p.index.Answers .upsertVerified) (hpage : p.pageSize ≠ 0) :
    ∃ zones report ix, (reconcilePass mode).exec p = (.ok report, { p.swept with index := ix }) ∧
      report.mode = mode ∧ ZoneKey.Ascending zones ∧ (∀ z, z ∈ zones ↔ p.StoredZone z) ∧
      report.storeKeys = zones.length ∧ report.indexRows = p.index.services.length ∧
      report.missing = zones.filter (fun z => !decide (p.index.HasUsableRow z)) ∧
      (mode = .reverse → ZoneKey.Ascending report.orphaned ∧
        ∀ z, z ∈ report.orphaned ↔ p.index.HasRow z ∧ z ∉ zones) ∧
      (mode ≠ .reverse → report.orphaned = []) ∧
      (mode = .fix →
        report.fixed = (report.missing.filter fun z => (p.storedDescriptor? z).isSome).length ∧
        Repaired p.storedDescriptor? report.missing p.index ix) ∧
      (mode ≠ .fix → ix = p.index) := by
  obtain ⟨zones, hscan, sorted, mem⟩ := scanDescriptors_exec p
  obtain ⟨orphansSorted, orphansMem⟩ := orphans_spec zones p.index
  unfold reconcilePass
  rw [exec_get_bind, exec_bind, loadIndex_exec hopen schema.numbered hpage]
  dsimp only
  rw [exec_bind, hscan]
  dsimp only
  simp only [usable_check_eq schema, List.length_map]
  cases mode with
  | fix =>
    -- the repairs run on the plane the scan left, whose store is at rest
    obtain ⟨ix, hrep, repaired⟩ := repairs_exec
      (zones.filter fun z => !decide (p.index.HasUsableRow z)) 0 p.swept
      (Plane.swept_atRest hc) (hfix rfl)
    rw [Plane.storedDescriptor?_swept hc] at hrep repaired
    simp only [ReconcileMode.beq_eq_decide, decide_true, if_true]
    rw [exec_bind, hrep]
    dsimp only
    rw [exec_pure, Nat.zero_add]
    exact ⟨zones, _, ix, rfl, rfl, sorted, mem, rfl, rfl, rfl, nofun, fun _ => rfl,
      fun _ => ⟨rfl, repaired⟩, fun h => absurd rfl h⟩
  | print =>
    simp only [ReconcileMode.beq_eq_decide, reduceCtorEq, decide_false, Bool.false_eq_true,
      if_false]
    rw [exec_bind, exec_pure]
    dsimp only
    rw [exec_pure]
    exact ⟨zones, _, p.index, rfl, rfl, sorted, mem, rfl, rfl, rfl, nofun, fun _ => rfl, nofun,
      fun _ => rfl⟩
  | reverse =>
    simp only [ReconcileMode.beq_eq_decide, reduceCtorEq, decide_false, Bool.false_eq_true,
      if_false, decide_true, if_true]
    rw [exec_bind, exec_pure]
    dsimp only
    rw [exec_pure]
    exact ⟨zones, _, p.index, rfl, rfl, sorted, mem, rfl, rfl, rfl,
      fun _ => ⟨orphansSorted, orphansMem⟩, fun h => absurd rfl h, nofun, fun _ => rfl⟩

theorem reconcile_exec_of {mode : ReconcileMode} {report : ReconcileReport} {q : Plane}
    (h : (reconcilePass mode).exec p = (.ok report, q)) :
    ∃ m, (reconcile mode).exec p = (.ok report, { q with metrics := m }) := by
  unfold reconcile count
  rw [exec_bind, exec_recorded_of h]
  dsimp only
  rw [exec_bind, exec_modify]
  exact ⟨_, rfl⟩

theorem ncard_eq_length {P : ZoneKey → Prop} {zs : List ZoneKey} (nodup : zs.Nodup)
    (mem : ∀ z, z ∈ zs ↔ P z) : {z | P z}.ncard = zs.length := by
  have same : {z | P z} = ↑zs.toFinset := by
    ext z
    simp [mem]
  rw [same, Set.ncard_coe_finset, List.toFinset_card_of_nodup nodup]

/-! ## The report -/

/-- A counted pass in any mode, over a consistent store, an index that keeps its schema and answers
the pass's pages (and, in fix mode, its upserts), and a page size that lets a page hold a row,
answers. It reports the number of zones the store holds
descriptors for and the number of rows; as missing, ascending, the stored zones without a usable
row; and, ascending, the zones with a row and no stored descriptor, in reverse mode only. It
writes nothing to the store, and nothing to the index outside fix mode. -/
theorem reconcile_reports_set_difference (mode : ReconcileMode) (hc : p.store.Consistent)
    (schema : p.index.Schema) (hopen : p.index.Answers .pageAfter)
    (hfix : mode = .fix → p.index.Answers .upsertVerified) (hpage : p.pageSize ≠ 0) :
    ∃ report ix m, (reconcile mode).exec p =
        (.ok report, { p.swept with index := ix, metrics := m }) ∧
      report.mode = mode ∧
      report.storeKeys = {z | p.StoredZone z}.ncard ∧
      report.indexRows = p.index.services.length ∧
      ZoneKey.Ascending report.missing ∧
      (∀ z, z ∈ report.missing ↔ p.StoredZone z ∧ ¬ p.index.HasUsableRow z) ∧
      ZoneKey.Ascending report.orphaned ∧
      (∀ z, z ∈ report.orphaned ↔ mode = .reverse ∧ p.index.HasRow z ∧ ¬ p.StoredZone z) ∧
      (mode ≠ .fix → ix = p.index) := by
  obtain ⟨zones, report, ix, hpass, hmode, sorted, mem, hkeys, hrows, hmissing, hrev, hnrev, -,
    hnfix⟩ := reconcilePass_outcome mode hc schema hopen hfix hpage
  obtain ⟨m, hrun⟩ := reconcile_exec_of hpass
  refine ⟨report, ix, m, hrun, hmode, ?_, hrows, ?_, fun z => ?_, ?_, fun z => ?_, hnfix⟩
  · rw [hkeys, ncard_eq_length sorted.nodup mem]
  · rw [hmissing]
    exact List.Pairwise.filter _ sorted
  · rw [hmissing, List.mem_filter, mem]
    simp
  · by_cases hm : mode = .reverse
    · exact (hrev hm).1
    · rw [hnrev hm]
      exact List.Pairwise.nil
  · by_cases hm : mode = .reverse
    · rw [(hrev hm).2 z, mem]
      simp [hm]
    · rw [hnrev hm]
      simp [hm]

/-- A store holding one descriptor, under no lease, beside an empty index: a counted print pass
reports the descriptor's zone missing. -/
theorem lone_descriptor_reported_missing :
    ∃ report, ((reconcile .print).exec
      ({ store := ((Store.make 0 0).put 0 "/services/orders:1.0/dc-1/desc"
        ({ service := "orders:1.0", zone := "dc-1" } : Descriptor).text .keep).2 } : Plane)).1 =
      .ok report ∧ ("orders:1.0", "dc-1") ∈ report.missing := by
  obtain ⟨report, ix, m, hrun, -, -, -, -, missing, -⟩ := reconcile_reports_set_difference .print
    (p := { store := ((Store.make 0 0).put 0 "/services/orders:1.0/dc-1/desc"
      ({ service := "orders:1.0", zone := "dc-1" } : Descriptor).text .keep).2 })
    ((Store.consistent_make 0 0).apply (.put 0 _ _ .keep)) ⟨Index.numbered_empty, List.nodup_nil⟩
    (by decide) (by decide) (by decide)
  refine ⟨report, by rw [hrun], (missing _).2 ⟨?_, nofun⟩⟩
  exact ⟨"/services/orders:1.0/dc-1/desc", by decide +kernel, by decide +kernel⟩

/-! ## Fixing -/

/-- A counted pass in fix mode, over a consistent store, an index that keeps its schema and answers
the pass's pages and upserts, and a page size that lets a page hold a row, answers and converges. After it, every stored zone whose
descriptor reads has a usable row; every row it added is active, verified, and hashed from the
stored descriptor renamed to its zone; and it counts as fixed the missing zones whose descriptor
reads. A second pass then fixes nothing, finds missing exactly the zones the first found missing
whose descriptor does not read, and changes neither the index nor the store. -/
theorem reconcile_fix_converges (hc : p.store.Consistent) (schema : p.index.Schema)
    (hopen : p.index.Answers .pageAfter) (hfix : p.index.Answers .upsertVerified)
    (hpage : p.pageSize ≠ 0) :
    ∃ report q, (reconcile .fix).exec p = (.ok report, q) ∧ q.store = p.swept.store ∧
      (∀ z, p.StoredZone z → (p.storedDescriptor? z).isSome → q.index.HasUsableRow z) ∧
      (∀ r ∈ q.index.services, r ∉ p.index.services → ∃ d, p.storedDescriptor? r.zoneKey = some d ∧
        r.status = .active ∧ r.verified = true ∧ r.contentHash = repairHash d r.zoneKey) ∧
      report.fixed = (report.missing.filter fun z => (p.storedDescriptor? z).isSome).length ∧
      ∃ report' q', (reconcile .fix).exec q = (.ok report', q') ∧ report'.fixed = 0 ∧
        report'.missing = report.missing.filter (fun z => (p.storedDescriptor? z).isNone) ∧
        q'.index = q.index ∧ q'.store = q.store := by
  obtain ⟨zones, report, ix, hpass, -, sorted, mem, -, -, hmissing, -, -, fixed, -⟩ :=
    reconcilePass_outcome .fix hc schema hopen (fun _ => hfix) hpage
  obtain ⟨hfixed, repaired⟩ := fixed rfl
  rw [hmissing] at repaired
  obtain ⟨m, hrun⟩ := reconcile_exec_of hpass
  refine ⟨report, _, hrun, rfl, ?usable, fun r hr fresh => repaired.new_row hr fresh, hfixed, ?again⟩
  case usable =>
    intro z stored found
    rw [repaired.hasUsableRow_iff]
    by_cases before : p.index.HasUsableRow z
    · exact .inl before
    · exact .inr ⟨List.mem_filter.2 ⟨(mem z).2 stored, by simpa using before⟩, found⟩
  case again =>
    -- the second pass reads the store the first left, at rest, and the index it wrote
    have hc' : ({ p.swept with index := ix, metrics := m } : Plane).store.Consistent :=
      hc.expire.publish
    obtain ⟨zones', report', ix', hpass', -, sorted', mem', -, -, hmissing', -, -, hfix', -⟩ :=
      reconcilePass_outcome .fix hc' (repaired.schema schema) (repaired.answers.2 hopen)
        (fun _ => repaired.answers.2 hfix) hpage
    have sameZones : zones' = zones := ZoneKey.Ascending.eq_of_mem_iff sorted' sorted fun z =>
      (mem' z).trans ((Plane.storedZone_swept hc z).trans (mem z).symm)
    have sameDesc : ({ p.swept with index := ix, metrics := m } : Plane).storedDescriptor? =
        p.storedDescriptor? := Plane.storedDescriptor?_swept hc
    obtain ⟨hfixed', repaired'⟩ := hfix' rfl
    rw [sameDesc] at hfixed' repaired'
    -- what stays missing is what the first pass could not read
    have stillMissing :
        report'.missing = report.missing.filter fun z => (p.storedDescriptor? z).isNone := by
      rw [hmissing', sameZones, hmissing]
      exact repaired.filter_unusable zones
    have unreadable : ∀ z ∈ report'.missing, p.storedDescriptor? z = none := fun z hz => by
      rw [stillMissing, List.mem_filter] at hz
      exact Option.isNone_iff_eq_none.1 hz.2
    have sameStore : p.swept.swept.store = p.swept.store :=
      congrArg Plane.store (Plane.swept_swept hc)
    obtain ⟨m', hrun'⟩ := reconcile_exec_of hpass'
    refine ⟨report', _, hrun', ?_, stillMissing, repaired'.untouched unreadable, sameStore⟩
    rw [hfixed', List.length_eq_zero_iff, List.filter_eq_nil_iff]
    intro z hz
    simp [unreadable z hz]

/-- From the same plane, a counted fix pass gives the descriptor's zone a usable row. -/
theorem lone_descriptor_fixed :
    ∃ report q, (reconcile .fix).exec
      ({ store := ((Store.make 0 0).put 0 "/services/orders:1.0/dc-1/desc"
        ({ service := "orders:1.0", zone := "dc-1" } : Descriptor).text .keep).2 } : Plane) =
      (.ok report, q) ∧ q.index.HasUsableRow ("orders:1.0", "dc-1") := by
  obtain ⟨report, q, hrun, -, usable, -⟩ := reconcile_fix_converges
    (p := { store := ((Store.make 0 0).put 0 "/services/orders:1.0/dc-1/desc"
      ({ service := "orders:1.0", zone := "dc-1" } : Descriptor).text .keep).2 })
    ((Store.consistent_make 0 0).apply (.put 0 _ _ .keep)) ⟨Index.numbered_empty, List.nodup_nil⟩
    (by decide) (by decide) (by decide)
  refine ⟨report, q, hrun, usable _ ?_ (by decide +kernel)⟩
  exact ⟨"/services/orders:1.0/dc-1/desc", by decide +kernel, by decide +kernel⟩

end ControlPlane
