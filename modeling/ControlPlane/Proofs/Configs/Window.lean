import Mathlib.Data.String.Basic
import ControlPlane.Proofs.Key.Namespaces
import ControlPlane.Proofs.Store.PrefixRange

/-!
# The window of a configuration range

A configuration range from `lower` to `upper` reads the store from the key of `lower` up to the
key of `upper`, or up to the end of the configuration part when `upper` is empty. With the
configuration prefix and its slash in front of both, keys compare as their names do
(`KeySpace.configKey_lt_iff`), and every key between two configuration keys is one itself. So
the keys the read finds are exactly the configuration keys whose name is at least `lower` and,
unless `upper` is empty, below `upper` (`KeySpace.inConfigRange_iff`): the range's window
(`Store.configWindow`), in key order, which is name order.

The read puts the window in the order asked for (as it stands, or by a stable sort), cuts it at
twenty entries, and says whether it cut anything; each entry is answered under its name, with
its value and its mod revision as version (`config_range_window`). Sorting comes before the cut,
so a sorted range answers the first twenty of the whole window in that order.

1. `KeySpace.configName_configKey`, `KeySpace.eq_configKey_of_configName`: names and keys.
2. `KeySpace.configKey_lt_iff`, `KeySpace.configKey_le_iff`: keys compare as names.
3. `KeySpace.inConfigRange_iff`: the bounds of the read as bounds on names.
4. `Store.configWindow`, `inRequestedOrder`, `Store.range_configs`: the read.
5. `rangeConfigs_exec` and the main theorem.
-/

namespace ControlPlane

namespace KeySpace

variable (ks : KeySpace) {k name : String}

theorem configKey_eq (name : String) : ks.configKey name = (ks.configPart ++ "/") ++ name := rfl

theorem toList_configKey (name : String) :
    (ks.configKey name).toList = (ks.configPart ++ "/").toList ++ name.toList := by
  rw [configKey_eq, String.toList_append]

theorem configName_configKey (name : String) : ks.configName (ks.configKey name) = some name := by
  have key : ks.configKey name = ks.configPart ++ ("/" ++ name) := by
    rw [configKey_eq, String.append_assoc]
  simp only [configName, key, stripStart?_append, Option.bind_eq_bind, Option.bind_some]

theorem eq_configKey_of_configName (h : ks.configName k = some name) : k = ks.configKey name := by
  simp only [configName, Option.bind_eq_bind, Option.bind_eq_some_iff] at h
  obtain ⟨rest, hrest, hname⟩ := h
  rw [eq_append_of_stripStart? hrest, eq_append_of_stripStart? hname, configKey_eq,
    String.append_assoc]

theorem configKey_lt_iff {a b : String} : ks.configKey a < ks.configKey b ↔ a < b := by
  rw [String.lt_iff_toList_lt, String.lt_iff_toList_lt, toList_configKey, toList_configKey]
  exact append_lt_append_left_iff _

theorem configKey_le_iff {a b : String} : ks.configKey a ≤ ks.configKey b ↔ a ≤ b := by
  rw [← not_lt, ← not_lt, ks.configKey_lt_iff]

theorem inConfigs_configKey (name : String) : ks.InConfigs (ks.configKey name) := by
  rw [inConfigs_iff, toList_configKey]
  exact List.prefix_append _ _

theorem eq_configKey_of_inConfigs (hk : ks.InConfigs k) : ∃ name, k = ks.configKey name := by
  obtain ⟨rest, hrest⟩ := (ks.inConfigs_iff).1 hk
  refine ⟨String.ofList rest, String.toList_inj.1 ?_⟩
  rw [toList_configKey, String.toList_ofList, hrest]

/-- A key lies between the key of `lower` and the end the range sets for `upper` exactly when it
is the key of a name that is at least `lower` and, unless `upper` is empty, below `upper`. -/
theorem inConfigRange_iff (lower upper k : String) :
    (ks.configKey lower ≤ k ∧
        k < (if upper.isEmpty then ks.configRangeEnd else ks.configKey upper)) ↔
      ∃ name, k = ks.configKey name ∧ lower ≤ name ∧ (upper = "" ∨ name < upper) := by
  constructor
  · rintro ⟨above, below⟩
    -- the key lies in the configuration part: its start is below `lower`'s key, its end above
    have least : ks.configPart ++ "/" = ks.configKey "" := by
      rw [configKey_eq, String.append_empty]
    have start : ks.configPart ++ "/" ≤ k := by
      refine le_trans ?_ above
      rw [least, configKey_le_iff, ← not_lt, String.lt_iff_toList_lt, String.toList_empty]
      exact List.not_lt_nil _
    have inside : k < ks.configRangeEnd := by
      split at below
      · exact below
      · exact lt_trans below (ks.inConfigs_configKey upper).2
    obtain ⟨name, rfl⟩ := ks.eq_configKey_of_inConfigs ⟨start, inside⟩
    refine ⟨name, rfl, (ks.configKey_le_iff).1 above, ?_⟩
    by_cases empty : upper = ""
    · exact .inl empty
    · rw [if_neg (by simpa [String.isEmpty_iff] using empty), configKey_lt_iff] at below
      exact .inr below
  · rintro ⟨name, rfl, above, below⟩
    refine ⟨(ks.configKey_le_iff).2 above, ?_⟩
    split
    · exact (ks.inConfigs_configKey name).2
    · rename_i nonempty
      rw [configKey_lt_iff]
      exact below.resolve_left (by simpa [String.isEmpty_iff] using nonempty)

end KeySpace

/-! ## The window -/

namespace Store

/-- A key-value's place in the window from `lower` to `upper`: its name, when its key is a
configuration key whose name is at least `lower` and, unless `upper` is empty, below it. -/
def configEntry (ks : KeySpace) (lower upper : String) (kv : KeyValue) :
    Option (String × KeyValue) :=
  match ks.configName kv.key with
  | some name => if lower ≤ name ∧ (upper = "" ∨ name < upper) then some (name, kv) else none
  | none => none

/-- The configurations a range from `lower` to `upper` looks at, with their names, in the
store's order. -/
def configWindow (ks : KeySpace) (s : Store) (lower upper : String) : List (String × KeyValue) :=
  s.entries.filterMap (configEntry ks lower upper)

variable {ks : KeySpace} {s : Store} {lower upper : String}

theorem configEntry_eq_some {kv : KeyValue} {nk : String × KeyValue} :
    configEntry ks lower upper kv = some nk ↔
      nk.2 = kv ∧ kv.key = ks.configKey nk.1 ∧ lower ≤ nk.1 ∧ (upper = "" ∨ nk.1 < upper) := by
  obtain ⟨name, kv'⟩ := nk
  constructor
  · intro h
    unfold configEntry at h
    split at h
    · rename_i name' hname
      split at h
      · rename_i bounds
        cases h
        exact ⟨rfl, ks.eq_configKey_of_configName hname, bounds⟩
      · cases h
    · cases h
  · rintro ⟨rfl, key, bounds⟩
    dsimp only at key bounds
    simp only [configEntry, key, ks.configName_configKey, if_pos bounds]

theorem mem_configWindow {nk : String × KeyValue} :
    nk ∈ s.configWindow ks lower upper ↔
      nk.2 ∈ s.entries ∧ nk.2.key = ks.configKey nk.1 ∧ lower ≤ nk.1 ∧
        (upper = "" ∨ nk.1 < upper) := by
  rw [configWindow, List.mem_filterMap]
  constructor
  · rintro ⟨kv, mem, found⟩
    obtain ⟨rfl, key⟩ := configEntry_eq_some.1 found
    exact ⟨mem, key⟩
  · rintro ⟨mem, key⟩
    exact ⟨nk.2, mem, configEntry_eq_some.2 ⟨rfl, key⟩⟩

theorem configWindow_ascending (sorted : EntriesSorted s.entries) :
    (s.configWindow ks lower upper).Pairwise fun a b => a.1 < b.1 := by
  refine sorted.filterMap _ ?_
  intro kv kv' lt a ha a' ha'
  obtain ⟨-, key, -⟩ := configEntry_eq_some.1 ha
  obtain ⟨-, key', -⟩ := configEntry_eq_some.1 ha'
  rw [key, key', KeySpace.configKey_lt_iff] at lt
  exact lt

/-- The read's bounds select from the entries exactly the window's. -/
theorem map_snd_configWindow (ks : KeySpace) (s : Store) (lower upper : String) :
    (s.configWindow ks lower upper).map Prod.snd =
      s.entries.filter fun kv => ks.configKey lower ≤ kv.key &&
        kv.key < (if upper.isEmpty then ks.configRangeEnd else ks.configKey upper) := by
  rw [configWindow, List.map_filterMap, ← List.filterMap_eq_filter]
  apply List.filterMap_congr
  intro kv _
  rw [Option.guard_apply]
  by_cases inside : ks.configKey lower ≤ kv.key ∧
      kv.key < (if upper.isEmpty then ks.configRangeEnd else ks.configKey upper)
  · obtain ⟨name, key, bounds⟩ := (ks.inConfigRange_iff lower upper kv.key).1 inside
    have found : configEntry ks lower upper kv = some (name, kv) :=
      configEntry_eq_some.2 ⟨rfl, key, bounds⟩
    simp only [found, Option.map_some, inside, decide_true, Bool.and_self, if_true]
  · -- outside the bounds the key is no window key
    have missing : configEntry ks lower upper kv = none := by
      cases found : configEntry ks lower upper kv with
      | none => rfl
      | some nk =>
        obtain ⟨rfl, key, bounds⟩ := configEntry_eq_some.1 found
        exact absurd ((ks.inConfigRange_iff lower upper _).2 ⟨nk.1, key, bounds⟩) inside
    rw [missing, Option.map_none, if_neg (by simpa using inside)]

end Store

/-! ## The read -/

/-- The window in the order a read asks for: as it stands, or stably sorted by the entries' sort
target and order. -/
def inRequestedOrder (sort : Option (SortTarget × SortOrder)) (w : List (String × KeyValue)) :
    List (String × KeyValue) :=
  match sort with
  | none => w
  | some (t, o) => w.mergeSort fun a b => inSortOrder t o a.2 b.2

@[simp] theorem length_inRequestedOrder (sort : Option (SortTarget × SortOrder))
    (w : List (String × KeyValue)) : (inRequestedOrder sort w).length = w.length := by
  cases sort with
  | none => rfl
  | some ts => exact List.length_mergeSort _

theorem mem_inRequestedOrder {sort : Option (SortTarget × SortOrder)}
    {w : List (String × KeyValue)} {nk : String × KeyValue} :
    nk ∈ inRequestedOrder sort w ↔ nk ∈ w := by
  cases sort with
  | none => rfl
  | some ts => exact List.mem_mergeSort

namespace Store

variable {ks : KeySpace}

theorem ne_nul_of_mem {k : String} {c : Char} (hc : c ∈ k.toList) (ne : c ≠ '\x00') :
    k ≠ "\x00" := by
  rintro rfl
  exact ne (List.mem_singleton.1 hc)

/-- The end a configuration range sets is a key, never the null key that reads to the end. -/
theorem configRangeEnd_ne_nul (ks : KeySpace) (upper : String) :
    (if upper.isEmpty then ks.configRangeEnd else ks.configKey upper) ≠ "\x00" := by
  split
  · refine ne_nul_of_mem (c := '0') ?_ (by decide)
    rw [KeySpace.configRangeEnd_eq, String.toList_append]
    exact List.mem_append_right _ (List.mem_singleton_self _)
  · refine ne_nul_of_mem (c := '/') ?_ (by decide)
    rw [KeySpace.toList_configKey, String.toList_append]
    exact List.mem_append_left _ (List.mem_append_right _ (List.mem_singleton_self _))

theorem cut_eq {l : List KeyValue} {n : Nat} (h : 0 < n) :
    (if (decide (n > 0) && decide (l.length > n)) = true then l.take n else l) = l.take n := by
  split
  · rfl
  · rename_i short
    simp only [h, decide_true, Bool.true_and, decide_eq_true_eq, gt_iff_lt, not_lt] at short
    exact (List.take_of_length_le short).symm

/-- A configuration range reads its window, ordered as asked, cut at the limit. -/
theorem range_configs (s : Store) (lower upper : String)
    (sort : Option (SortTarget × SortOrder)) :
    s.range
        { key := ks.configKey lower,
          rangeEnd := some (if upper.isEmpty then ks.configRangeEnd else ks.configKey upper),
          limit := configRangeLimit, sort } =
      { kvs := ((inRequestedOrder sort (s.configWindow ks lower upper)).take
          configRangeLimit).map Prod.snd,
        more := decide (configRangeLimit < (s.configWindow ks lower upper).length),
        revision := s.revision } := by
  have notAll := beq_eq_false_iff_ne.2 (configRangeEnd_ne_nul ks upper)
  -- an end at or below the start selects nothing, as the window then holds nothing
  have between : (if (if upper.isEmpty then ks.configRangeEnd else ks.configKey upper) ≤
        ks.configKey lower then []
      else s.entries.filter fun kv => ks.configKey lower ≤ kv.key &&
        kv.key < (if upper.isEmpty then ks.configRangeEnd else ks.configKey upper)) =
      (s.configWindow ks lower upper).map Prod.snd := by
    rw [map_snd_configWindow]
    by_cases past : (if upper.isEmpty then ks.configRangeEnd else ks.configKey upper) ≤
        ks.configKey lower
    · rw [if_pos past]
      refine (List.filter_eq_nil_iff.2 fun kv _ inside => ?_).symm
      simp only [Bool.and_eq_true, decide_eq_true_eq] at inside
      exact not_lt.2 past (lt_of_le_of_lt inside.1 inside.2)
    · rw [if_neg past]
  have limit : configRangeLimit > 0 := by decide
  dsimp only [range]
  simp only [notAll, Bool.false_eq_true, if_false]
  rw [between, cut_eq limit]
  cases sort with
  | none =>
    simp only [List.length_map, limit, decide_true, Bool.true_and, gt_iff_lt, List.map_take,
      inRequestedOrder]
  | some ts =>
    obtain ⟨t, o⟩ := ts
    -- sorting the entries is sorting the window by its entries
    have sorted : ((s.configWindow ks lower upper).map Prod.snd).mergeSort (inSortOrder t o) =
        (inRequestedOrder (some (t, o)) (s.configWindow ks lower upper)).map Prod.snd :=
      (List.map_mergeSort (s := inSortOrder t o) (f := Prod.snd) fun _ _ _ _ => rfl).symm
    simp only [sorted, List.length_map, length_inRequestedOrder, limit, decide_true,
      Bool.true_and, gt_iff_lt, List.map_take]

/-- Entries of the window read back under their names. -/
theorem filterMap_configItem {s : Store} {lower upper : String} {l : List (String × KeyValue)}
    (sub : ∀ nk ∈ l, nk ∈ s.configWindow ks lower upper) :
    (l.map Prod.snd).filterMap (fun kv => (ks.configName kv.key).map (ConfigItem.ofEntry · kv)) =
      l.map fun nk => ⟨nk.1, nk.2.value, nk.2.modRevision⟩ := by
  rw [List.filterMap_map, ← List.filterMap_eq_map']
  apply List.filterMap_congr
  intro nk mem
  obtain ⟨-, key, -⟩ := mem_configWindow.1 (sub nk mem)
  simp only [Function.comp_apply, key, ks.configName_configKey, Option.map_some,
    ConfigItem.ofEntry]

end Store

/-! ## The configuration range -/

open ControlPlane.Action

variable {lower upper : String}

/-- A configuration range with accepted bounds reads the swept store and names what it finds. -/
theorem exec_rangeConfigs (hl : checkNamePrefix lower = .ok ())
    (hu : checkNamePrefix upper = .ok ()) (sort : Option (SortTarget × SortOrder)) (p : Plane) :
    ((rangeConfigs lower upper sort).exec p).1 =
      let r := (p.store.expire p.clock).range
        { key := p.keyspace.configKey lower,
          rangeEnd := some (if upper.isEmpty then p.keyspace.configRangeEnd
            else p.keyspace.configKey upper),
          limit := configRangeLimit, sort }
      .ok (r.kvs.filterMap fun kv =>
        (p.keyspace.configName kv.key).map (ConfigItem.ofEntry · kv), r.more) := by
  unfold rangeConfigs
  rw [exec_recorded]
  dsimp only
  rw [exec_check_bind_of_ok hl, exec_check_bind_of_ok hu, exec_get_bind, exec_bind, exec_onStore, Store.read_eq]
  rfl

/-- A configuration range from `lower` to `upper` looks at the configurations of the swept store
whose name is at least `lower` and, unless `upper` is empty, below `upper`, in ascending name
order. It answers the first twenty of them in the order asked for, sorted before the cut, each
under its name with its value and its mod revision as version, and whether there were more. -/
theorem config_range_window {p : Plane} (hc : p.store.Consistent)
    (hl : checkNamePrefix lower = .ok ()) (hu : checkNamePrefix upper = .ok ())
    (sort : Option (SortTarget × SortOrder)) :
    let window := (p.store.expire p.clock).configWindow p.keyspace lower upper
    window.Pairwise (fun a b => a.1 < b.1) ∧
      ((rangeConfigs lower upper sort).exec p).1 =
        .ok (((inRequestedOrder sort window).take configRangeLimit).map
            (fun nk => ⟨nk.1, nk.2.value, nk.2.modRevision⟩),
          decide (configRangeLimit < window.length)) := by
  intro window
  refine ⟨Store.configWindow_ascending hc.expire.entries_sorted, ?_⟩
  -- what the read cuts off the ordered window is still the window's
  have sub : ∀ nk ∈ (inRequestedOrder sort window).take configRangeLimit, nk ∈ window :=
    fun nk mem => mem_inRequestedOrder.1 (List.mem_of_mem_take mem)
  rw [exec_rangeConfigs hl hu sort p, Store.range_configs]
  dsimp only
  rw [Store.filterMap_configItem sub]

/-- A range from `fe` up to `g` over a store holding one configuration, written
through the store. -/
theorem feature_range_reads_flag :
    let p : Plane := { store := (Store.Call.put 0 "/configs/feature.flags"
      "on" .detach).apply (Store.make 0 0) }
    p.store.Consistent ∧ checkNamePrefix "fe" = .ok () ∧ checkNamePrefix "g" = .ok () ∧
      let window := (p.store.expire p.clock).configWindow p.keyspace "fe" "g"
      window.Pairwise (fun a b => a.1 < b.1) ∧
        ((rangeConfigs "fe" "g" none).exec p).1 =
          .ok (((inRequestedOrder none window).take configRangeLimit).map
              (fun nk => ⟨nk.1, nk.2.value, nk.2.modRevision⟩),
            decide (configRangeLimit < window.length)) := by
  intro p
  have hc : p.store.Consistent :=
    (Store.Reachable.call (.put 0 "/configs/feature.flags" "on" .detach) (.make 0 0)).consistent
  exact ⟨hc, rfl, rfl, config_range_window hc rfl rfl none⟩

example :
    ((rangeConfigs "fe" "g" none).exec
        { store := (Store.Call.put 0 "/configs/feature.flags"
          "on" .detach).apply (Store.make 0 0) }).1.toOption.map (fun r => (r.1.map (·.name), r.2)) =
      some (["feature.flags"], false) := by
  decide +kernel

end ControlPlane
