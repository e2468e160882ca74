import ControlPlane.Proofs.Reconcile.Pass
import ControlPlane.Proofs.Key.Namespaces
import ControlPlane.Proofs.Plane.Refusal
import Mathlib.Data.Prod.Lex

/-!
# What a reconcile pass reads, said without the pass

A pass compares two sides, and this module names each side in its own words:

* the zones the store holds a descriptor for at the plane's clock (`Plane.StoredZone`), the
  descriptor stored for a zone when it reads (`Plane.storedDescriptor?`);
* the zones the index has a row for (`Index.HasRow`), and those whose row makes them present,
  soft-deleted or verified (`Index.HasUsableRow`).

The table keeps one row per zone and numbers its rows in increasing order (`Index.Schema`).

Then it shows that the pass reads these sides exactly:

1. zones are kept ascending and without repeats by inserting them one at a time
   (`ZoneKey.Ascending`, `foldl_inserts`);
2. the scan of the store reads every stored zone and nothing else, ascending, and leaves the plane
   as a read at its clock leaves it (`scanDescriptors_exec`);
3. with one row per zone, the pass's look at the last row read of a zone tells whether the zone
   has a usable row (`usable_check_eq`).
-/

namespace ControlPlane

open ControlPlane.Action

/-! ## Zones in order -/

namespace ZoneKey

theorem lt_iff (a b : ZoneKey) : ZoneKey.lt a b = true ↔ toLex a < toLex b := by
  rw [Prod.Lex.toLex_lt_toLex]
  simp [ZoneKey.lt]

/-- Ascending in the order of zones, so each zone at most once. -/
def Ascending (zs : List ZoneKey) : Prop := zs.Pairwise fun a b => ZoneKey.lt a b = true

theorem Ascending.nodup {zs : List ZoneKey} (h : Ascending zs) : zs.Nodup :=
  List.Pairwise.nodup (r := fun a b => toLex a < toLex b) (h.imp (lt_iff _ _).1)

end ZoneKey

open ZoneKey in
theorem mem_insertZoneKey_iff {k z : ZoneKey} :
    ∀ {zs : List ZoneKey}, z ∈ insertZoneKey k zs ↔ z = k ∨ z ∈ zs
  | [] => by simp [insertZoneKey]
  | x :: xs => by
    unfold insertZoneKey
    split_ifs with same below
    · have : x = k := by simpa using same
      subst this
      simp
    · simp
    · simp only [List.mem_cons, mem_insertZoneKey_iff]
      tauto

open ZoneKey in
/-- Inserting a zone keeps a list ascending. -/
theorem ZoneKey.Ascending.insertZoneKey {k : ZoneKey} :
    ∀ {zs : List ZoneKey}, Ascending zs → Ascending (insertZoneKey k zs)
  | [], _ => by simp [ControlPlane.insertZoneKey, Ascending]
  | x :: xs, h => by
    obtain ⟨above, rest⟩ := List.pairwise_cons.1 h
    unfold ControlPlane.insertZoneKey
    split_ifs with same below
    · exact h
    · refine List.pairwise_cons.2 ⟨fun z hz => ?_, h⟩
      rcases List.mem_cons.1 hz with rfl | hz
      · exact below
      · exact (lt_iff _ _).2 (lt_trans ((lt_iff _ _).1 below) ((lt_iff _ _).1 (above z hz)))
    · -- `x` is neither `k` nor above it, so it is below it
      have ne : toLex x ≠ toLex k := fun h => same (by simpa using h)
      have lower : toLex x < toLex k :=
        lt_of_le_of_ne (not_lt.1 fun h => below ((lt_iff _ _).2 h)) ne
      refine List.pairwise_cons.2 ⟨fun z hz => ?_, ZoneKey.Ascending.insertZoneKey rest⟩
      rcases mem_insertZoneKey_iff.1 hz with rfl | hz
      · exact (lt_iff _ _).2 lower
      · exact above z hz

open ZoneKey in
/-- A fold whose every step inserts a zone, or nothing: the zones it ends with are those it
started with and those its steps inserted, ascending. -/
theorem foldl_inserts {α : Type} {f : List ZoneKey → α → List ZoneKey} {g : α → Option ZoneKey}
    (step : ∀ acc a, f acc a = match g a with
      | some z => insertZoneKey z acc
      | none => acc) :
    ∀ (l : List α) (acc : List ZoneKey), Ascending acc →
      Ascending (l.foldl f acc) ∧ ∀ z, z ∈ l.foldl f acc ↔ z ∈ acc ∨ ∃ a ∈ l, g a = some z
  | [], acc, h => ⟨h, fun z => by simp⟩
  | a :: l, acc, h => by
    have inserted : Ascending (f acc a) ∧ ∀ z, z ∈ f acc a ↔ z ∈ acc ∨ g a = some z := by
      rw [step]
      cases hg : g a with
      | none => exact ⟨h, fun z => by simp⟩
      | some k =>
        exact ⟨h.insertZoneKey, fun z => by
          rw [mem_insertZoneKey_iff, Option.some.injEq, @eq_comm _ k z, or_comm]⟩
    obtain ⟨sorted, mem⟩ := foldl_inserts step l (f acc a) inserted.1
    refine ⟨sorted, fun z => ?_⟩
    rw [List.foldl_cons, mem, inserted.2]
    simp only [List.mem_cons, exists_eq_or_imp]
    tauto

/-! ## The two sides -/

/-- The zone of a row. -/
def ServiceRow.zoneKey (r : ServiceRow) : ZoneKey := (r.service, r.zone)

@[simp] theorem ServiceRow.state_zone (r : ServiceRow) : r.state.zone = r.zoneKey := rfl

namespace Index

/-- The rows as the table keeps them: numbered in increasing order from 1, and one row per
service zone, the table's unique key. -/
structure Schema (ix : Index) : Prop where
  numbered : ix.Numbered
  keyed : (ix.services.map ServiceRow.zoneKey).Nodup

/-- A zone has a row. -/
def HasRow (ix : Index) (z : ZoneKey) : Prop := ∃ r ∈ ix.services, r.zoneKey = z

/-- A zone has a row that makes it present to a pass: soft-deleted, or verified. -/
def HasUsableRow (ix : Index) (z : ZoneKey) : Prop :=
  ∃ r ∈ ix.services, r.zoneKey = z ∧ (r.status = .deleted ∨ r.verified = true)

instance (ix : Index) (z : ZoneKey) : Decidable (ix.HasRow z) :=
  inferInstanceAs (Decidable (∃ r ∈ ix.services, _))

instance (ix : Index) (z : ZoneKey) : Decidable (ix.HasUsableRow z) :=
  inferInstanceAs (Decidable (∃ r ∈ ix.services, _))

theorem Schema.row_unique {ix : Index} (h : ix.Schema) {r r' : ServiceRow} (hr : r ∈ ix.services)
    (hr' : r' ∈ ix.services) (same : r.zoneKey = r'.zoneKey) : r = r' :=
  List.inj_on_of_nodup_map h.keyed hr hr' same

end Index

namespace Plane

/-- A zone the store holds a descriptor for at the plane's clock: a key that reads back as the
zone's descriptor key is held once the leases due at the clock are swept. -/
def StoredZone (p : Plane) (z : ZoneKey) : Prop :=
  ∃ k, p.keyspace.decode k = some ⟨z.1, z.2, .descriptor⟩ ∧ ((p.store.expire p.clock).held k).isSome

/-- The descriptor the store holds for a zone at the plane's clock, when the value of the zone's
descriptor key reads as one. -/
def storedDescriptor? (p : Plane) (z : ZoneKey) : Option Descriptor :=
  ((p.store.expire p.clock).held (p.keyspace.descriptorKey z.1 z.2)).bind fun held =>
    Descriptor.read? held.1

variable {p : Plane}

theorem swept_atRest (hc : p.store.Consistent) : Store.AtRest p.clock p.swept.store :=
  Store.AtRest.get hc ""

theorem held_swept (hc : p.store.Consistent) (k : String) :
    (p.swept.store.expire p.swept.clock).held k = (p.store.expire p.clock).held k := by
  show (p.swept.store.expire p.clock).held k = _
  rw [Store.expire_atRest (swept_atRest hc)]
  rfl

theorem storedZone_swept (hc : p.store.Consistent) (z : ZoneKey) :
    p.swept.StoredZone z ↔ p.StoredZone z := by
  simp only [StoredZone, held_swept hc]
  rfl

theorem storedDescriptor?_swept (hc : p.store.Consistent) :
    p.swept.storedDescriptor? = p.storedDescriptor? := by
  funext z
  simp only [storedDescriptor?, held_swept hc]
  rfl

end Plane

/-! ## Reading the store -/

/-- The zone a scanned entry adds: that of a descriptor key, and none for another key. -/
def KeySpace.descriptorZone? (ks : KeySpace) (k : String) : Option ZoneKey :=
  (ks.decode k).bind fun key => if key.isDescriptor then some (key.service, key.zone) else none

theorem KeySpace.descriptorZone?_eq_some {ks : KeySpace} {k : String} {z : ZoneKey} :
    ks.descriptorZone? k = some z ↔ ks.decode k = some ⟨z.1, z.2, .descriptor⟩ := by
  unfold descriptorZone?
  constructor
  · intro h
    obtain ⟨key, hdec, hz⟩ := Option.bind_eq_some_iff.1 h
    split at hz
    · rename_i desc
      cases hz
      rw [hdec, ServiceKey.eq_of_isDescriptor desc]
    · cases hz
  · intro h
    rw [h]
    rfl

theorem Store.held_isSome_iff {s : Store} {k : String} :
    (s.held k).isSome ↔ ∃ e ∈ s.entries, e.key = k := by
  simp [Store.held, Store.find?, List.find?_isSome]

/-- The scan of the store answers its zones ascending, each the zone of a descriptor key held at
the clock and every such zone, and leaves the plane as a read at its clock leaves it. -/
theorem scanDescriptors_exec (p : Plane) :
    ∃ zones, scanDescriptors.exec p = (.ok zones, p.swept) ∧ ZoneKey.Ascending zones ∧
      ∀ z, z ∈ zones ↔ p.StoredZone z := by
  unfold scanDescriptors
  rw [exec_get_bind, exec_bind, exec_onStore, Store.read_eq]
  dsimp only
  rw [exec_pure]
  -- the scan's fold inserts the zone of each descriptor key it reads, and nothing for another key
  refine ⟨_, rfl, (foldl_inserts (g := fun kv : KeyValue => p.keyspace.descriptorZone? kv.key)
    ?step _ [] List.Pairwise.nil).imp id fun mem z => (mem z).trans ?_⟩
  case step =>
    intro acc kv
    unfold KeySpace.descriptorZone?
    cases p.keyspace.decode kv.key with
    | none => rfl
    | some key => by_cases hd : key.isDescriptor <;> simp [hd]
  rw [Store.range_startingWith_keysOnly, Store.range_startingWith]
  simp only [List.not_mem_nil, false_or, List.mem_map, List.mem_filter,
    KeySpace.descriptorZone?_eq_some]
  constructor
  · -- a scanned entry is held, under the key it was scanned with
    rintro ⟨_, ⟨e, ⟨he, -⟩, rfl⟩, hdec⟩
    exact ⟨e.key, hdec, Store.held_isSome_iff.2 ⟨e, he, rfl⟩⟩
  · -- a held descriptor key starts with the start of every service key
    rintro ⟨k, hdec, held⟩
    obtain ⟨e, he, rfl⟩ := Store.held_isSome_iff.1 held
    have start : (p.keyspace.allServicesStart).toList.isPrefixOf e.key.toList := by
      rw [List.isPrefixOf_iff_prefix]
      exact p.keyspace.inServices_of_decode hdec
    exact ⟨_, ⟨e, ⟨he, start⟩, rfl⟩, hdec⟩

/-! ## Reading the index -/

/-- With one row per zone, the pass's look at the last row read of a zone tells whether the zone
has a usable row. -/
theorem usable_check_eq {ix : Index} (schema : ix.Schema) (z : ZoneKey) :
    (((ix.services.map ServiceRow.state).reverse.find? (·.zone == z)).map RowState.usable).getD
      false = decide (ix.HasUsableRow z) := by
  cases hfind : (ix.services.map ServiceRow.state).reverse.find? (·.zone == z) with
  | none =>
    -- no row of the zone was read
    have none : ∀ r ∈ ix.services, r.zoneKey ≠ z := fun r hr hz => by
      have := List.find?_eq_none.1 hfind r.state (List.mem_reverse.2 (List.mem_map_of_mem hr))
      simp [hz] at this
    simp only [Option.map_none, Option.getD_none, Index.HasUsableRow]
    exact (decide_eq_false fun ⟨r, hr, hz, _⟩ => none r hr hz).symm
  | some s =>
    -- the row found is the zone's one row
    obtain ⟨r, hr, rfl⟩ := List.mem_map.1 (List.mem_reverse.1 (List.mem_of_find?_eq_some hfind))
    have hz : r.zoneKey = z := by simpa using List.find?_some hfind
    have usable : ix.HasUsableRow z ↔ r.status = .deleted ∨ r.verified = true := by
      constructor
      · rintro ⟨r', hr', hz', used⟩
        rwa [schema.row_unique hr hr' (hz.trans hz'.symm)]
      · exact fun used => ⟨r, hr, hz, used⟩
    simp only [Option.map_some, Option.getD_some, RowState.usable, ServiceRow.state, usable]
    cases r.status <;> cases r.verified <;> decide

end ControlPlane
