import Mathlib.Data.String.Basic
import Mathlib.Data.List.Sort
import ControlPlane.Store.State

/-!
# The store's tables as maps

The store keeps its entries in a list ascending by key, its leases in a list ascending by
number, and the keys of each lease ascending. This module reads these lists as maps: an entry
is looked up by `Store.find?` and a lease by `Store.lease?`, and each way the store changes a
table gets one equation through the lookup.

1. Inserting an entry keeps the entries ascending; its key then finds it, every other key
   finds what it found before.
2. Inserting a key keeps a key list ascending and adds exactly that key.
3. Filtering the entries by key, or the leases by number, removes exactly what it names.
4. Changing the lease of one number leaves the lease of every other number as it was.
-/

namespace ControlPlane

/-- Removing every item of one name from a list looked up by name: the name removed finds
nothing, every other name what it found before. -/
theorem find?_filter_bne {α β : Type} [DecidableEq β] [BEq β] [LawfulBEq β] (name : α → β)
    {xs : List α} {k k' : β} :
    (xs.filter (name · != k)).find? (name · == k') =
      if k' = k then none else xs.find? (name · == k') := by
  rw [List.find?_filter]
  by_cases hk : k' = k
  · subst hk
    simp only [if_true]
    rw [List.find?_eq_none]
    intro x _
    by_cases hx : name x = k' <;> simp [hx]
  · simp only [hk, if_false]
    congr 1
    funext x
    by_cases hx : name x = k'
    · simp [hx, hk]
    · simp [hx]

/-- The lease of a number, if it is in the table. -/
def Store.lease? (s : Store) (id : LeaseId) : Option LeaseRecord := s.leases.find? (·.id == id)

/-! ## Entries -/

/-- Entries ascending by key: each key has at most one entry. -/
def EntriesSorted (es : List KeyValue) : Prop := es.Pairwise (·.key < ·.key)

theorem find?_insertEntry {kv : KeyValue} {k : String} :
    ∀ {es : List KeyValue}, EntriesSorted es →
      (insertEntry kv es).find? (·.key == k) = if kv.key = k then some kv else es.find? (·.key == k)
  | [], _ => by
    by_cases hk : kv.key = k <;> simp [insertEntry, hk]
  | e :: es, h => by
    obtain ⟨above, rest⟩ := List.pairwise_cons.1 h
    by_cases hk : kv.key = k
    · -- the inserted entry stands before every entry of its key
      have first : insertEntry kv (e :: es) = kv :: es ∨
          insertEntry kv (e :: es) = kv :: e :: es ∨
          (insertEntry kv (e :: es) = e :: insertEntry kv es ∧ e.key ≠ kv.key) := by
        rw [insertEntry.eq_2]
        split_ifs with same below
        · exact .inl rfl
        · exact .inr (.inl rfl)
        · exact .inr (.inr ⟨rfl, by simpa using same⟩)
      rcases first with first | first | ⟨first, other⟩
      · simp [first, hk]
      · simp [first, hk]
      · have miss : (e.key == k) = false := beq_eq_false_iff_ne.2 (hk ▸ other)
        simp [first, miss, find?_insertEntry rest, hk]
    · have miss : (kv.key == k) = false := beq_eq_false_iff_ne.2 hk
      unfold insertEntry
      split_ifs with same below
      · -- the entry of the key is replaced, and the key looked up is another one
        have same : e.key = kv.key := by simpa using same
        have miss' : (e.key == k) = false := by rw [same]; exact miss
        simp [miss, miss']
      · simp [miss]
      · simp only [List.find?_cons, find?_insertEntry rest, hk, if_false]

theorem mem_insertEntry {kv e : KeyValue} :
    ∀ {es : List KeyValue}, e ∈ insertEntry kv es → e = kv ∨ e ∈ es
  | [], h => by simpa [insertEntry] using h
  | x :: es, h => by
    unfold insertEntry at h
    split_ifs at h with same below
    · rcases List.mem_cons.1 h with rfl | h
      · exact .inl rfl
      · exact .inr (List.mem_cons_of_mem _ h)
    · simpa using h
    · rcases List.mem_cons.1 h with rfl | h
      · exact .inr List.mem_cons_self
      · rcases mem_insertEntry h with rfl | h
        · exact .inl rfl
        · exact .inr (List.mem_cons_of_mem _ h)

theorem insertEntry_sorted {kv : KeyValue} :
    ∀ {es : List KeyValue}, EntriesSorted es → EntriesSorted (insertEntry kv es)
  | [], _ => by simp [insertEntry, EntriesSorted]
  | e :: es, h => by
    obtain ⟨above, rest⟩ := List.pairwise_cons.1 h
    unfold insertEntry
    split_ifs with same below
    · have same : e.key = kv.key := by simpa using same
      exact List.pairwise_cons.2 ⟨fun x hx => same ▸ above x hx, rest⟩
    · refine List.pairwise_cons.2 ⟨fun x hx => ?_, h⟩
      rcases List.mem_cons.1 hx with rfl | hx
      · exact below
      · exact lt_trans below (above x hx)
    · have lower : e.key < kv.key := by
        have : e.key ≠ kv.key := by simpa using same
        exact lt_of_le_of_ne (not_lt.1 below) this
      refine List.pairwise_cons.2 ⟨fun x hx => ?_, insertEntry_sorted rest⟩
      rcases mem_insertEntry hx with rfl | hx
      · exact lower
      · exact above x hx

theorem filter_sorted {p : KeyValue → Bool} {es : List KeyValue} (h : EntriesSorted es) :
    EntriesSorted (es.filter p) :=
  h.filter p

theorem find?_filter_key {es : List KeyValue} {k k' : String} :
    (es.filter (·.key != k)).find? (·.key == k') =
      if k' = k then none else es.find? (·.key == k') :=
  find?_filter_bne KeyValue.key

theorem find?_key {es : List KeyValue} {k : String} {e : KeyValue}
    (h : es.find? (·.key == k) = some e) : e.key = k ∧ e ∈ es :=
  ⟨by simpa using List.find?_some h, List.mem_of_find?_eq_some h⟩

/-- In entries ascending by key, every entry is found under its key. -/
theorem find?_of_mem {es : List KeyValue} {e : KeyValue} (h : EntriesSorted es) (he : e ∈ es) :
    es.find? (·.key == e.key) = some e := by
  induction es with
  | nil => simp at he
  | cons x es ih =>
    obtain ⟨above, rest⟩ := List.pairwise_cons.1 h
    rcases List.mem_cons.1 he with rfl | he
    · simp
    · have : x.key ≠ e.key := ne_of_lt (above e he)
      simp [this, ih rest he]

theorem find?_eq_some_iff {es : List KeyValue} {k : String} {e : KeyValue} (h : EntriesSorted es) :
    es.find? (·.key == k) = some e ↔ e ∈ es ∧ e.key = k := by
  constructor
  · intro hf
    exact (find?_key hf).symm
  · rintro ⟨he, rfl⟩
    exact find?_of_mem h he

theorem find?_eq_none_iff {es : List KeyValue} {k : String} :
    es.find? (·.key == k) = none ↔ ∀ e ∈ es, e.key ≠ k := by
  simp

/-! ## Key lists -/

theorem mem_insertKey {k x : String} : ∀ {ks : List String}, k ∈ insertKey x ks ↔ k = x ∨ k ∈ ks
  | [] => by simp [insertKey]
  | y :: ks => by
    unfold insertKey
    split_ifs with same below
    · have : y = x := by simpa using same
      subst this
      simp
    · simp
    · simp only [List.mem_cons, mem_insertKey]
      tauto

theorem insertKey_sorted {x : String} :
    ∀ {ks : List String}, ks.Pairwise (· < ·) → (insertKey x ks).Pairwise (· < ·)
  | [], _ => by simp [insertKey]
  | y :: ks, h => by
    obtain ⟨above, rest⟩ := List.pairwise_cons.1 h
    unfold insertKey
    split_ifs with same below
    · exact h
    · refine List.pairwise_cons.2 ⟨fun z hz => ?_, h⟩
      rcases List.mem_cons.1 hz with rfl | hz
      · exact below
      · exact lt_trans below (above z hz)
    · have lower : y < x := lt_of_le_of_ne (not_lt.1 below) (by simpa using same)
      refine List.pairwise_cons.2 ⟨fun z hz => ?_, insertKey_sorted rest⟩
      rcases mem_insertKey.1 hz with rfl | hz
      · exact lower
      · exact above z hz

theorem erase_sorted {x : String} {ks : List String} (h : ks.Pairwise (· < ·)) :
    (ks.erase x).Pairwise (· < ·) :=
  h.sublist (List.erase_sublist)

theorem mem_erase_sorted {k x : String} {ks : List String} (h : ks.Pairwise (· < ·)) :
    k ∈ ks.erase x ↔ k ≠ x ∧ k ∈ ks :=
  (List.Pairwise.nodup h).mem_erase_iff

/-! ## Leases -/

/-- Changing the lease of one number, by a change that keeps the number. -/
theorem lease?_mapLease {s : Store} {id j : LeaseId} {f : LeaseRecord → LeaseRecord}
    (hf : ∀ l, (f l).id = l.id) :
    (s.mapLease id f).lease? j = (s.lease? j).map fun l => if j = id then f l else l := by
  simp only [Store.lease?, Store.mapLease, List.find?_map]
  have pred : ((fun l : LeaseRecord => l.id == j) ∘ fun l => if l.id == id then f l else l) =
      fun l => l.id == j := by
    funext l
    by_cases hl : l.id = id <;> simp [hl, hf]
  rw [pred]
  cases hfind : s.leases.find? (·.id == j) with
  | none => rfl
  | some l =>
    have hl : l.id = j := by simpa using List.find?_some hfind
    simp [hl]

theorem mapLease_ids {s : Store} {id : LeaseId} {f : LeaseRecord → LeaseRecord}
    (hf : ∀ l, (f l).id = l.id) : (s.mapLease id f).leases.map (·.id) = s.leases.map (·.id) := by
  simp only [Store.mapLease, List.map_map]
  congr 1
  funext l
  by_cases hl : l.id = id <;> simp [hl, hf]

theorem mem_mapLease {s : Store} {id : LeaseId} {f : LeaseRecord → LeaseRecord} {l : LeaseRecord}
    (hl : l ∈ (s.mapLease id f).leases) : ∃ l₀ ∈ s.leases, l = if l₀.id = id then f l₀ else l₀ := by
  simp only [Store.mapLease, List.mem_map] at hl
  obtain ⟨l₀, h₀, rfl⟩ := hl
  exact ⟨l₀, h₀, by simp⟩

theorem lease?_filter {ls : List LeaseRecord} {id j : LeaseId} :
    (ls.filter (·.id != id)).find? (·.id == j) = if j = id then none else ls.find? (·.id == j) :=
  find?_filter_bne LeaseRecord.id

theorem lease?_eq_some {s : Store} {id : LeaseId} {l : LeaseRecord} (h : s.lease? id = some l) :
    l.id = id ∧ l ∈ s.leases :=
  ⟨by simpa using List.find?_some h, List.mem_of_find?_eq_some h⟩

theorem hasLease_iff {s : Store} {id : LeaseId} : s.hasLease id = true ↔ (s.lease? id).isSome := by
  simp [Store.hasLease, Store.lease?, List.find?_isSome]

end ControlPlane
