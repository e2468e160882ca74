import ControlPlane.Proofs.Index.Rows
import ControlPlane.Proofs.Plane.Triple
import ControlPlane.Proofs.Store.Keys
import ControlPlane.Proofs.Store.PrefixRange
import ControlPlane.Reconcile.Run

/-!
# What a reconcile pass reads

A pass reads the index page by page, each page the rows numbered after the last row read. When
rows are numbered in increasing order from 1 and a page may hold a row, the pages together are
every row, in order (`loadIndex_exec`). The pass then reads the zone of every descriptor key the
store holds (`scanDescriptors_held`), and reports as missing the zones without a usable row.

So a pass over a plane whose index agrees with its store, every held descriptor having rows that
are soft-deleted or verified under its hash (`IndexAgrees`), reports nothing missing and the
index consistent (`reconcile_print_consistent`).
-/

namespace ControlPlane

open ControlPlane.Action

/-- What a pass reads of a row. -/
def ServiceRow.state (r : ServiceRow) : RowState := ⟨(r.service, r.zone), r.status, r.verified⟩

theorem ServiceRow.state_eq :
    (fun r : ServiceRow => (⟨(r.service, r.zone), r.status, r.verified⟩ : RowState)) =
      ServiceRow.state := rfl

/-! ## Reading the index -/

namespace Index

/-- In rows numbered in increasing order, the rows numbered after the last of the first `k` are
the rest. -/
theorem filter_after_getLast {rows : List ServiceRow} (sorted : rows.Pairwise fun a b => a.id < b.id)
    {k : Nat} {last : ServiceRow} (hlast : (rows.take k).getLast? = some last) :
    rows.filter (·.id > last.id) = rows.drop k := by
  have split := List.take_append_drop k rows
  rw [← split] at sorted
  obtain ⟨sortedTake, -, across⟩ := List.pairwise_append.1 sorted
  obtain ⟨init, hinit⟩ := List.getLast?_eq_some_iff.1 hlast
  have hmem : last ∈ rows.take k := by
    rw [hinit]
    exact List.mem_append_right _ (List.mem_singleton_self _)
  -- the first `k` rows are numbered up to `last`, the rest after it
  have before : ∀ r ∈ rows.take k, ¬ r.id > last.id := by
    rw [hinit] at sortedTake ⊢
    intro r hr
    rcases List.mem_append.1 hr with hr | hr
    · have := List.pairwise_append.1 sortedTake |>.2.2 r hr last (List.mem_singleton_self _)
      omega
    · rw [List.mem_singleton.1 hr]
      exact Int.lt_irrefl _
  have after : ∀ r ∈ rows.drop k, r.id > last.id := fun r hr => across last hmem r hr
  rw [← split, List.filter_append, List.filter_eq_nil_iff.2 (by simpa using before),
    List.filter_eq_self.2 (by simpa using after), List.nil_append, split]

variable {ix : Index}

/-- The rows after the last row of a page are the rows after `after` past the page. -/
theorem filter_after_page (sorted : ix.services.Pairwise fun a b => a.id < b.id) {after : Int}
    {k : Nat} {last : ServiceRow}
    (hlast : ((ix.services.filter (·.id > after)).take k).getLast? = some last) :
    ix.services.filter (·.id > last.id) = (ix.services.filter (·.id > after)).drop k := by
  have hmem := List.mem_of_getLast? hlast
  have beyond : last.id > after := by
    simpa using (List.mem_filter.1 (List.mem_of_mem_take hmem)).2
  -- a row after `last` is after `after`: reading after `last` reads within the rows after `after`
  have narrower : ix.services.filter (·.id > last.id) =
      (ix.services.filter (·.id > after)).filter (·.id > last.id) := by
    rw [List.filter_filter]
    apply List.filter_congr
    intro r _
    by_cases hr : r.id > last.id
    · have : r.id > after := Int.lt_trans beyond hr
      simp [hr, this]
    · simp [hr]
  rw [narrower, filter_after_getLast (sorted.filter _) hlast]

end Index

variable {p : Plane}

/-- With pages that may hold a row, a reading of the rows after `after` with more fuel than rows
left appends them all. -/
theorem loadIndex_go_exec (hopen : p.index.Answers .pageAfter)
    (sorted : p.index.services.Pairwise fun a b => a.id < b.id) {pageSize : Int}
    (hpage : pageSize ≠ 0) :
    ∀ n after acc, (p.index.services.filter (·.id > after)).length < n →
      (loadIndex.go pageSize n after acc).exec p =
        (.ok (acc ++ (p.index.services.filter (·.id > after)).map ServiceRow.state), p)
  | 0, _, _, hlen => absurd hlen (Nat.not_lt_zero _)
  | n + 1, after, acc, hlen => by
    unfold loadIndex.go
    rw [exec_bind, exec_onIndexRead, Index.pageAfter_eq hopen]
    dsimp only
    generalize hrest : p.index.services.filter (·.id > after) = rest at hlen ⊢
    -- a page takes `k` of the rows left, all of them when the size is negative, and a page
    -- shorter than the size is all that is left
    obtain ⟨k, hk, hpageEq, hshort⟩ : ∃ k, (rest ≠ [] → 0 < k) ∧
        (if pageSize < 0 then rest else rest.take pageSize.toNat) = rest.take k ∧
        (((rest.take k).length : Int) < pageSize → rest.take k = rest) := by
      by_cases hneg : pageSize < 0
      · refine ⟨rest.length, fun hne => List.length_pos_of_ne_nil hne, ?_, fun _ => ?_⟩
        · rw [if_pos hneg, List.take_length]
        · exact List.take_length
      · refine ⟨pageSize.toNat, fun _ => by omega, if_neg hneg, fun short => ?_⟩
        apply List.take_of_length_le
        rw [List.length_take] at short
        omega
    rw [hpageEq]
    cases hlast : (rest.take k).getLast? with
    | none =>
      -- nothing is left after `after`
      have empty : rest = [] := by
        rw [List.getLast?_eq_none_iff, List.take_eq_nil_iff] at hlast
        rcases hlast with hk0 | hnil
        · by_contra hne
          have := hk hne
          omega
        · exact hnil
      rw [empty]
      simp only [exec_pure, List.map_nil, List.append_nil]
    | some last =>
      dsimp only
      have hne : rest ≠ [] := by
        rintro rfl
        simp at hlast
      have next : p.index.services.filter (·.id > last.id) = rest.drop k := by
        rw [← hrest]
        exact Index.filter_after_page sorted (hrest ▸ hlast)
      split
      · -- a full page: read on after its last row
        have shorter : (p.index.services.filter (·.id > last.id)).length < n := by
          rw [next, List.length_drop]
          have := hk hne
          have := List.length_pos_of_ne_nil hne
          omega
        rw [loadIndex_go_exec hopen sorted hpage n last.id _ shorter, next, List.append_assoc,
          ServiceRow.state_eq, ← List.map_append, List.take_append_drop]
      · -- a short page: it was the last
        rename_i short
        rw [hshort (by omega), exec_pure, ServiceRow.state_eq]

/-- A pass reads every row of an index numbered in increasing order from 1 that answers its pages,
in order, when a page may hold a row. -/
theorem loadIndex_exec (hopen : p.index.Answers .pageAfter) (numbered : p.index.Numbered)
    {pageSize : Int} (hpage : pageSize ≠ 0) :
    (loadIndex pageSize).exec p = (.ok (p.index.services.map ServiceRow.state), p) := by
  unfold loadIndex
  rw [exec_get_bind]
  -- every row is numbered after 0, and there is fuel for a page per row and an empty one
  have all : p.index.services.filter (·.id > 0) = p.index.services :=
    List.filter_eq_self.2 fun r hr => by simpa using numbered.positive r hr
  have loaded := loadIndex_go_exec hopen numbered.sorted hpage (p.index.services.length + 1) 0 []
    (by rw [all]; omega)
  rw [all, List.nil_append] at loaded
  exact loaded

/-! ## Reading the descriptors -/

/-- Inserting into an ascending list of zones adds only the zone inserted. -/
theorem mem_insertZoneKey {k z : ZoneKey} :
    ∀ {zones : List ZoneKey}, z ∈ insertZoneKey k zones → z = k ∨ z ∈ zones
  | [], h => .inl (List.mem_singleton.1 h)
  | x :: xs, h => by
    unfold insertZoneKey at h
    split at h
    · exact .inr h
    split at h
    · rcases List.mem_cons.1 h with rfl | h
      · exact .inl rfl
      · exact .inr h
    · rcases List.mem_cons.1 h with rfl | h
      · exact .inr List.mem_cons_self
      · rcases mem_insertZoneKey h with rfl | h
        · exact .inl rfl
        · exact .inr (List.mem_cons_of_mem _ h)

/-- A fold over entries whose every step adds only zones that `P` allows of its entry. -/
theorem mem_foldl_of_step {f : List ZoneKey → KeyValue → List ZoneKey}
    {P : KeyValue → ZoneKey → Prop} (step : ∀ acc kv z, z ∈ f acc kv → z ∈ acc ∨ P kv z) :
    ∀ (kvs : List KeyValue) acc z, z ∈ kvs.foldl f acc → z ∈ acc ∨ ∃ kv ∈ kvs, P kv z
  | [], _, _, h => .inl h
  | kv :: kvs, acc, z, h => by
    rcases mem_foldl_of_step step kvs (f acc kv) z h with h | ⟨kv', hkv', allowed⟩
    · rcases step acc kv z h with h | allowed
      · exact .inl h
      · exact .inr ⟨kv, List.mem_cons_self, allowed⟩
    · exact .inr ⟨kv', List.mem_cons_of_mem _ hkv', allowed⟩

theorem Store.range_startingWith_keysOnly (s : Store) (start : String) :
    (s.range { RangeRequest.startingWith start with keysOnly := true }).kvs =
      (s.range (RangeRequest.startingWith start)).kvs.map ({ · with value := "" }) := rfl

theorem ServiceKey.eq_of_isDescriptor {k : ServiceKey} (h : k.isDescriptor = true) :
    k = ⟨k.service, k.zone, .descriptor⟩ := by
  obtain ⟨service, zone, suffix⟩ := k
  cases suffix with
  | descriptor => rfl
  | node address => cases h

/-- Each zone a pass reads from the store is the zone of a descriptor key the store holds. -/
theorem scanDescriptors_held (hc : p.store.Consistent) :
    ∃ zones p', scanDescriptors.exec p = (.ok zones, p') ∧
      ∀ z ∈ zones, ∃ k v l, p.keyspace.decode k = some ⟨z.1, z.2, .descriptor⟩ ∧
        p.store.held k = some (v, l) := by
  unfold scanDescriptors
  rw [exec_get_bind, exec_bind, exec_onStore, Store.read_eq]
  dsimp only
  rw [exec_pure]
  refine ⟨_, _, rfl, fun z hz => ?_⟩
  have added := mem_foldl_of_step (P := fun kv z => ∃ key, p.keyspace.decode kv.key = some key ∧
    key.isDescriptor = true ∧ z = (key.service, key.zone)) ?step _ [] z hz
  case step =>
    -- a step inserts the zone of a descriptor key, and nothing for another key
    intro acc kv z hz
    split at hz
    · rename_i key hdec
      split at hz
      · rcases mem_insertZoneKey hz with rfl | h
        · exact .inr ⟨key, hdec, by assumption, rfl⟩
        · exact .inl h
      · exact .inl hz
    · exact .inl hz
  rcases added with h | ⟨kv, hkv, key, hdec, hdesc, rfl⟩
  · cases h
  -- the key read is the key of an entry of the swept store, which the store held before
  rw [Store.range_startingWith_keysOnly, List.mem_map] at hkv
  obtain ⟨e, he, rfl⟩ := hkv
  rw [Store.range_startingWith] at he
  have found : ((p.store.expire p.clock).held e.key).isSome := by
    simp only [Store.held, Store.find?, Option.isSome_map, List.find?_isSome]
    exact ⟨e, (List.mem_filter.1 he).1, by simp⟩
  obtain ⟨⟨v, l⟩, hvl⟩ := Option.isSome_iff_exists.1 found
  refine ⟨e.key, v, l, ?_, (Store.Sweeps.expire hc p.clock).kept _ _ hvl⟩
  rw [hdec, ServiceKey.eq_of_isDescriptor hdesc]

/-! ## A pass over an index that agrees with the store -/

/-- Every descriptor key the store holds, of zone `zone` of `service`, holds a value `v` with
`Q service zone v`. -/
def DescriptorsSatisfy (ks : KeySpace) (Q : String → String → String → Prop) (s : Store) : Prop :=
  ∀ k service zone, ks.decode k = some ⟨service, zone, .descriptor⟩ →
    ∀ v l, s.held k = some (v, l) → Q service zone v

/-- The rows of a zone agree with its stored descriptor `v`: it reads as a descriptor, the zone
has a row, and each row of the zone is soft-deleted, or active and verified under the hash of
the descriptor. -/
def ZoneIndexed (rows : List ServiceRow) (service zone v : String) : Prop :=
  ∃ stored, Descriptor.read? v = some stored ∧ (∃ r ∈ rows, r.service = service ∧ r.zone = zone) ∧
    ∀ r ∈ rows, r.service = service → r.zone = zone →
      r.status = .deleted ∨
        (r.status = .active ∧ r.verified = true ∧ r.contentHash = stored.computeHash)

/-- The index agrees with the store: every descriptor key held has its zone's rows agreeing
with it, and the index answers every call, with its rows numbered in increasing order from 1. -/
structure IndexAgrees (ks : KeySpace) (p : Plane) : Prop where
  descriptors : DescriptorsSatisfy ks (ZoneIndexed p.index.services) p.store
  answers : ∀ call, p.index.Answers call
  numbered : p.index.Numbered

/-- A zone with a row, whose rows are all soft-deleted or verified, is usable to a pass, which
looks at its last row. -/
theorem usable_of_rows {rows : List ServiceRow} {z : ZoneKey}
    (hrow : ∃ r ∈ rows, r.service = z.1 ∧ r.zone = z.2)
    (husable : ∀ r ∈ rows, r.service = z.1 → r.zone = z.2 →
      r.status = .deleted ∨ r.verified = true) :
    (((rows.map ServiceRow.state).reverse.find? (·.zone == z)).map RowState.usable).getD false =
      true := by
  cases hfind : (rows.map ServiceRow.state).reverse.find? (·.zone == z) with
  | none =>
    -- the zone's row is among those read
    obtain ⟨r, hr, hs, hz⟩ := hrow
    have := List.find?_eq_none.1 hfind r.state (List.mem_reverse.2 (List.mem_map_of_mem hr))
    simp only [ServiceRow.state, beq_iff_eq] at this
    exact absurd (Prod.ext hs hz) this
  | some s =>
    have hmem := List.mem_reverse.1 (List.mem_of_find?_eq_some hfind)
    have hzone : s.zone = z := by simpa using List.find?_some hfind
    obtain ⟨r, hr, rfl⟩ := List.mem_map.1 hmem
    obtain ⟨hs, hz⟩ : r.service = z.1 ∧ r.zone = z.2 := by
      simpa [ServiceRow.state, Prod.ext_iff] using hzone
    rcases husable r hr hs hz with del | ver
    · simp [RowState.usable, ServiceRow.state, del]
    · simp [RowState.usable, ServiceRow.state, ver]

variable {ks : KeySpace}

/-- A pass in print mode over a plane whose index agrees with its store, with pages that may
hold a row, finds no zone missing, repairs nothing and reports no orphan. -/
theorem reconcilePass_print (hc : p.store.Consistent) (agrees : IndexAgrees p.keyspace p)
    (hpage : p.pageSize ≠ 0) :
    ∃ report p', (reconcilePass .print).exec p = (.ok report, p') ∧ report.missing = [] ∧
      report.fixed = 0 ∧ report.orphaned = [] := by
  obtain ⟨zones, p', hscan, held⟩ := scanDescriptors_held hc
  unfold reconcilePass
  rw [exec_get_bind, exec_bind, loadIndex_exec (agrees.answers _) agrees.numbered hpage]
  dsimp only
  rw [exec_bind, hscan]
  dsimp only
  rw [if_neg (by decide), exec_bind, exec_pure]
  dsimp only
  rw [exec_pure]
  refine ⟨_, _, rfl, List.filter_eq_nil_iff.2 fun z hz => ?_, rfl, rfl⟩
  -- every zone read holds a descriptor, whose rows agree with it
  obtain ⟨k, v, l, hdec, hheld⟩ := held z hz
  obtain ⟨stored, -, hrow, hrows⟩ := agrees.descriptors k z.1 z.2 hdec v l hheld
  have usable := usable_of_rows hrow fun r hr hs hz => (hrows r hr hs hz).imp id fun h => h.2.1
  simp [usable]

/-- A pass in print mode over a plane whose index agrees with its store, with pages that may
hold a row, reports no zone missing and the index consistent. -/
theorem reconcile_print_consistent (hc : p.store.Consistent) (agrees : IndexAgrees p.keyspace p)
    (hpage : p.pageSize ≠ 0) :
    ∃ report, ((reconcile .print).exec p).1 = .ok report ∧ report.missing = [] ∧
      report.isConsistent = true := by
  obtain ⟨report, p', hpass, missing, fixed, orphaned⟩ := reconcilePass_print hc agrees hpage
  unfold reconcile count
  rw [exec_bind, exec_recorded, hpass]
  dsimp only
  rw [exec_bind, exec_modify]
  refine ⟨report, rfl, missing, ?_⟩
  simp [ReconcileReport.isConsistent, missing, fixed, orphaned]

end ControlPlane
