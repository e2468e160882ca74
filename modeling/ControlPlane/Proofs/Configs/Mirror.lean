import ControlPlane.Proofs.Configs.Calls

/-!
# The ledger mirrors the store

Configurations live twice: as values under their keys in the store, and as rows of the ledger,
one per name, active or marked deleted. The ledger mirrors the store (`LedgerMirror`) when it
is open, has at most one row per name, and a configuration's key holds a value, under no
lease, exactly when its row is active with that value (`Index.activeValue`).

The ledger calls a configuration operation makes each move one name's row: a recorded write
makes it active with the new value (`Index.recordPut_activeValue`), a deletion marks it deleted
(`Index.markDeleted_activeValue`), and a note of a handed-out version touches no row at all
(`Index.recordObserved_configs`). The store calls keep every configuration entry but the one of
the name they write (`Store.KeepsConfigs`, `Store.Call.keepsConfigs`), since the sweep that
starts each call only removes entries held by a lease. So a plane change that writes one name
in both, deletes it in both, or leaves both alone keeps the mirror (`LedgerMirror.write`,
`LedgerMirror.erase`, `LedgerMirror.keep`).

Beside the rows, the ledger keeps the history of the writes it recorded, and the version each
application node was last handed; both are said here of one ledger call each
(`Index.recordPut_history`, `Index.recordObserved_observedVersion`).
-/

namespace ControlPlane

/-- Whether an observation is of an application's node and a configuration. -/
def Observation.isOf (o : Observation) (appId : Int) (node name : String) : Bool :=
  o.appId == appId && o.node == node && o.name == name

/-- The version that the last of `obs` of an application's node and a configuration records, if
one of them is. -/
def lastSeen (obs : List Observation) (appId : Int) (node name : String) : Option Int :=
  ((obs.filter (·.isOf appId node name)).getLast?).map (·.version)

theorem lastSeen_append (xs ys : List Observation) (appId : Int) (node name : String) :
    lastSeen (xs ++ ys) appId node name =
      (lastSeen ys appId node name).or (lastSeen xs appId node name) := by
  simp only [lastSeen, List.filter_append, List.getLast?_append, Option.map_or]

/-- A write as the ledger's history shows it. -/
def HistoryEntry.change (h : HistoryEntry) : ConfigChange :=
  ⟨h.tag, h.name, h.appId, h.remark, h.value⟩

theorem KeySpace.configKey_inj {ks : KeySpace} {n m : String} (h : ks.configKey n = ks.configKey m) :
    n = m :=
  (String.append_right_inj (ks.configPart ++ "/")).mp h

namespace Index

variable {ix ix' : Index}

/-- The value of a configuration's row, when that row is active. -/
def activeValue (ix : Index) (name : String) : Option String :=
  ((ix.configs.find? (·.name == name)).filter (·.status = .active)).map (·.value)

theorem find?_map_of_test {α : Type} {f : α → α} {test : α → Bool} (hf : ∀ r, test (f r) = test r)
    (rows : List α) : (rows.map f).find? test = (rows.find? test).map f := by
  rw [List.find?_map]
  congr 2
  funext r
  exact hf r

/-! ### Recording a write -/

/-- What a recorded write does to the ledger: a tick of its clock, the write's row made active
with its tag and value (or added, under the next number, when the name has none), and the
write appended to the history. -/
theorem recordPut_fields {c : ConfigChange} (h : ix.recordPut c = .ok ix') :
    ix'.closed = ix.closed ∧ ix'.observations = ix.observations ∧
      ix'.history.map HistoryEntry.change = ix.history.map HistoryEntry.change ++ [c] ∧
      ∃ now id, ix'.configs =
        if ix.configs.any (·.name == c.name) then
          ix.configs.map fun r =>
            if r.name == c.name then
              { r with status := .active, tag := c.tag, value := c.value, modifyTime := now }
            else r
        else ix.configs ++ [{ id, status := .active, tag := c.tag, name := c.name,
                              value := c.value, modifyTime := now }] := by
  obtain ⟨opened, -⟩ := recordPut_ok h
  unfold recordPut ensureOpen at h
  simp only [opened, Bool.false_eq_true, if_false] at h
  cases h
  exact ⟨rfl, rfl, by simp [HistoryEntry.change, tick], _, _, rfl⟩

theorem recordPut_history {c : ConfigChange} (h : ix.recordPut c = .ok ix') :
    ix'.history.map HistoryEntry.change = ix.history.map HistoryEntry.change ++ [c] :=
  (recordPut_fields h).2.2.1

theorem recordPut_activeValue {c : ConfigChange} (h : ix.recordPut c = .ok ix') (name : String) :
    ix'.activeValue name = if name = c.name then some c.value else ix.activeValue name := by
  obtain ⟨-, -, -, now, id, rows⟩ := recordPut_fields h
  unfold activeValue
  rw [rows]
  split
  · -- the name has a row: the rows of the write's name are updated in place
    rename_i held
    rw [find?_map_of_test (fun r => by split <;> rfl)]
    by_cases same : name = c.name
    · subst same
      obtain ⟨r, hr⟩ := Option.isSome_iff_exists.1 (List.find?_isSome.2 (List.any_eq_true.1 held))
      have hname : r.name = c.name := by simpa using List.find?_some hr
      simp [hr, hname]
    · rw [if_neg same]
      cases hr : ix.configs.find? (·.name == name) with
      | none => rfl
      | some r =>
        have hname : r.name = name := by simpa using List.find?_some hr
        simp [hname, same]
  · -- the name has no row yet: the new row is the only one of its name
    rename_i fresh
    rw [List.find?_append]
    by_cases same : name = c.name
    · subst same
      have none : ix.configs.find? (·.name == c.name) = none := by
        rw [List.find?_eq_none]
        intro r hr
        simpa using fun h => fresh (List.any_eq_true.2 ⟨r, hr, h⟩)
      simp [none]
    · rw [if_neg same]
      cases ix.configs.find? (·.name == name) with
      | none => simp [Ne.symm same]
      | some r => rfl

theorem recordPut_rows {c : ConfigChange} (h : ix.recordPut c = .ok ix')
    (hrows : (ix.configs.map (·.name)).Nodup) : (ix'.configs.map (·.name)).Nodup := by
  obtain ⟨-, -, -, now, id, rows⟩ := recordPut_fields h
  rw [rows]
  split
  · -- an update in place keeps every row's name
    rename_i held
    rw [List.map_map]
    convert hrows using 2
    funext r
    simp only [Function.comp]
    split <;> rfl
  · -- a new row takes a name no row had
    rename_i fresh
    rw [List.map_append, List.nodup_append]
    refine ⟨hrows, List.nodup_singleton _, ?_⟩
    intro a ha b hb same
    obtain ⟨r, hr, rfl⟩ := List.mem_map.1 ha
    simp only [List.map_cons, List.map_nil, List.mem_singleton] at hb
    subst hb
    exact fresh (List.any_eq_true.2 ⟨r, hr, by simpa using same⟩)

/-! ### Marking a deletion -/

theorem markDeleted_fields {name : String} (h : ix.markDeleted name = .ok ix') :
    ix'.closed = ix.closed ∧ ix'.observations = ix.observations ∧ ix'.history = ix.history ∧
      ∃ now, ix'.configs = ix.configs.map fun r =>
        if r.name == name then { r with status := .deleted, modifyTime := now } else r := by
  unfold markDeleted ensureOpen at h
  cases hc : ix.closed with
  | true => simp [hc, throw, throwThe, MonadExceptOf.throw, bind, Except.bind] at h
  | false =>
    simp only [hc, Bool.false_eq_true, if_false] at h
    cases h
    exact ⟨hc.symm ▸ rfl, rfl, rfl, _, rfl⟩

theorem markDeleted_open (h : ix.closed = false) (name : String) :
    ∃ ix', ix.markDeleted name = .ok ix' := by
  unfold markDeleted ensureOpen
  simp only [h, Bool.false_eq_true, if_false]
  exact ⟨_, rfl⟩

theorem markDeleted_activeValue {name : String} (h : ix.markDeleted name = .ok ix') (n : String) :
    ix'.activeValue n = if n = name then none else ix.activeValue n := by
  obtain ⟨-, -, -, now, rows⟩ := markDeleted_fields h
  unfold activeValue
  rw [rows, find?_map_of_test (fun r => by split <;> rfl)]
  cases hr : ix.configs.find? (·.name == n) with
  | none => simp
  | some r =>
    -- the row found has the name looked up, so it is marked exactly when that is the name
    have hname : r.name = n := by simpa using List.find?_some hr
    by_cases same : n = name
    · simp [hname, same]
    · simp [hname, same]

theorem markDeleted_rows {name : String} (h : ix.markDeleted name = .ok ix') :
    ix'.configs.map (·.name) = ix.configs.map (·.name) := by
  obtain ⟨-, -, -, now, rows⟩ := markDeleted_fields h
  rw [rows, List.map_map]
  congr 1
  funext r
  simp only [Function.comp]
  split <;> rfl

/-! ### Noting a handed-out version -/

theorem recordObserved_fields {appId : Int} {node name : String} {version : Int}
    (h : ix.recordObserved appId node name version = .ok ix') :
    ix'.closed = ix.closed ∧ ix'.configs = ix.configs ∧ ix'.history = ix.history ∧
      (appId ≤ 0 → ix' = ix) ∧
      (0 < appId → ix.closed = false ∧ ix'.observations =
        if ix.observations.any (·.isOf appId node name) then
          ix.observations.map fun o => if o.isOf appId node name then { o with version } else o
        else ix.observations ++ [⟨appId, node, name, version⟩]) := by
  unfold recordObserved at h
  by_cases untracked : appId ≤ 0
  · simp only [untracked, if_true, pure, Except.pure] at h
    cases h
    exact ⟨rfl, rfl, rfl, fun _ => rfl, fun pos => absurd pos (not_lt.2 untracked)⟩
  · unfold ensureOpen at h
    cases hc : ix.closed with
    | true => simp [untracked, hc, throw, throwThe, MonadExceptOf.throw, bind, Except.bind] at h
    | false =>
      simp only [untracked, hc, if_false, Bool.false_eq_true] at h
      cases h
      exact ⟨hc.symm ▸ rfl, rfl, rfl, fun tracked => absurd tracked untracked,
        fun _ => ⟨rfl, rfl⟩⟩

theorem recordObserved_configs {appId : Int} {node name : String} {version : Int}
    (h : ix.recordObserved appId node name version = .ok ix') :
    ix'.closed = ix.closed ∧ ix'.configs = ix.configs ∧ ix'.history = ix.history :=
  let fields := recordObserved_fields h
  ⟨fields.1, fields.2.1, fields.2.2.1⟩

theorem observedVersion_open (h : ix.closed = false) (appId : Int) (node name : String) :
    ix.observedVersion appId node name =
      .ok ((ix.observations.find? (·.isOf appId node name)).map (·.version)) := by
  unfold observedVersion ensureOpen
  simp only [h, Bool.false_eq_true, if_false]
  rfl

/-- After a note of version `v` for an application's node and a configuration, that node of a
tracked application observes `v` for it; every other observed version stays. -/
theorem recordObserved_observedVersion {o : Observation}
    (h : ix.recordObserved o.appId o.node o.name o.version = .ok ix') {appId : Int}
    (tracked : 0 < appId) (node name : String) :
    ix'.observedVersion appId node name =
      (ix.observedVersion appId node name).map ((lastSeen [o] appId node name).or ·) := by
  obtain ⟨closed, -, -, untracked, noted⟩ := recordObserved_fields h
  by_cases pos : 0 < o.appId
  · obtain ⟨opened, rows⟩ := noted pos
    rw [observedVersion_open opened, observedVersion_open (closed.trans opened), rows]
    simp only [Except.map, Except.ok.injEq]
    -- the note changes the version of the observations of its own node and configuration only
    have kept : ∀ x : Observation, (if x.isOf o.appId o.node o.name then { x with version := o.version }
        else x).isOf appId node name = x.isOf appId node name := fun x => by split <;> rfl
    by_cases same : o.isOf appId node name
    · obtain ⟨rfl, rfl, rfl⟩ : o.appId = appId ∧ o.node = node ∧ o.name = name := by
        simpa [Observation.isOf, and_assoc] using same
      have seen : lastSeen [o] o.appId o.node o.name = some o.version := by simp [lastSeen, same]
      rw [seen, Option.some_or]
      split
      · rename_i held
        rw [find?_map_of_test kept]
        obtain ⟨x, hx⟩ := Option.isSome_iff_exists.1 (List.find?_isSome.2 (List.any_eq_true.1 held))
        simp [hx, List.find?_some hx]
      · rename_i fresh
        have none : ix.observations.find? (·.isOf o.appId o.node o.name) = none := by
          rw [List.find?_eq_none]
          exact fun x hx h => fresh (List.any_eq_true.2 ⟨x, hx, h⟩)
        rw [List.find?_append, none, Option.none_or]
        simp [Observation.isOf]
    · have unseen : lastSeen [o] appId node name = none := by simp [lastSeen, same]
      rw [unseen, Option.none_or]
      split
      · rw [find?_map_of_test kept]
        cases hx : ix.observations.find? (·.isOf appId node name) with
        | none => rfl
        | some x =>
          -- the observation found is of the query, so not of the note's node and configuration
          have other : x.isOf o.appId o.node o.name = false := by
            have hq := List.find?_some hx
            simp only [Observation.isOf, Bool.and_eq_true, beq_iff_eq] at hq same ⊢
            grind
          simp [other]
      · have other : (⟨o.appId, o.node, o.name, o.version⟩ : Observation).isOf appId node name = false := by
          simpa using same
        simp [List.find?_append, other]
  · -- an untracked application's note changes nothing, and is of no tracked application
    rw [untracked (not_lt.1 pos)]
    have other : o.isOf appId node name = false := by
      simp only [Observation.isOf, Bool.and_eq_false_iff, beq_eq_false_iff_ne]
      exact .inl (.inl fun same => pos (same ▸ tracked))
    cases ix.observedVersion appId node name <;> simp [lastSeen, other, Except.map]

end Index

/-! ## The store's configurations -/

namespace Store

variable {ks : KeySpace} {s t u : Store} {now : Nat}

/-- Every configuration entry of the store is held by no lease. -/
def ConfigsDetached (ks : KeySpace) (s : Store) : Prop :=
  ∀ name e, s.find? (ks.configKey name) = some e → e.lease = 0

/-- `t` is consistent and holds, under the key of each configuration that `names` picks, the
entry `s` holds there. -/
structure KeepsConfigs (ks : KeySpace) (names : String → Prop) (s t : Store) : Prop where
  consistent : t.Consistent
  find? : ∀ n, names n → t.find? (ks.configKey n) = s.find? (ks.configKey n)

theorem KeepsConfigs.refl (hc : s.Consistent) (names : String → Prop) : KeepsConfigs ks names s s :=
  ⟨hc, fun _ _ => rfl⟩

theorem KeepsConfigs.trans {names : String → Prop} (h₁ : KeepsConfigs ks names s t)
    (h₂ : KeepsConfigs ks names t u) : KeepsConfigs ks names s u :=
  ⟨h₂.consistent, fun n hn => (h₂.find? n hn).trans (h₁.find? n hn)⟩

theorem KeepsConfigs.of_other {name : String} (h : KeepsConfigs ks (· ≠ name) s t)
    (same : t.find? (ks.configKey name) = s.find? (ks.configKey name)) :
    KeepsConfigs ks (fun _ => True) s t := by
  refine ⟨h.consistent, fun n _ => ?_⟩
  by_cases hn : n = name
  · rw [hn, same]
  · exact h.find? n hn

theorem KeepsConfigs.detached (h : KeepsConfigs ks (fun _ => True) s t)
    (hd : ConfigsDetached ks s) : ConfigsDetached ks t :=
  fun n e he => hd n e ((h.find? n trivial) ▸ he)

/-- A call that neither puts nor deletes the key of a configuration `names` picks keeps its
entry, on a consistent store whose configurations no lease holds. -/
theorem Call.keepsConfigs (hc : s.Consistent) (hd : ConfigsDetached ks s) {c : Call}
    {names : String → Prop}
    (hput : ∀ t n v b, names n → .put (ks.configKey n) v b ∉ c.writesAt t)
    (hdel : ∀ t n, names n → .delete (ks.configKey n) ∉ c.writesAt t) :
    KeepsConfigs ks names s (c.apply s) :=
  ⟨hc.apply c, fun n hn => Call.find?_apply_of_untouched hc (fun t v b => hput t n v b hn)
    (fun t => hdel t n hn) (hd n)⟩

theorem Call.keepsConfigs_of_nil (hc : s.Consistent) (hd : ConfigsDetached ks s) {c : Call}
    (hw : ∀ t, c.writesAt t = []) : KeepsConfigs ks (fun _ => True) s (c.apply s) :=
  Call.keepsConfigs hc hd (fun t _ _ _ _ => by rw [hw]; exact List.not_mem_nil)
    (fun t _ _ => by rw [hw]; exact List.not_mem_nil)

/-- A call whose writes are all of one configuration's key keeps every other configuration
entry. -/
theorem Call.keepsOtherConfigs (hc : s.Consistent) (hd : ConfigsDetached ks s) {c : Call}
    {name : String} (hw : ∀ t op, op ∈ c.writesAt t →
      op = .delete (ks.configKey name) ∨ ∃ v b, op = .put (ks.configKey name) v b) :
    KeepsConfigs ks (· ≠ name) s (c.apply s) := by
  refine Call.keepsConfigs hc hd (fun t n v b hn hput => ?_) (fun t n hn hdel => ?_)
  · rcases hw t _ hput with same | ⟨v', b', same⟩
    · cases same
    · exact hn (KeySpace.configKey_inj (WriteOp.put.inj same).1)
  · rcases hw t _ hdel with same | ⟨v', b', same⟩
    · exact hn (KeySpace.configKey_inj (WriteOp.delete.inj same))
    · cases same

/-- A deletion attaches no lease, so it applies its write on the swept store. -/
theorem delete_applied (hc : s.Consistent) (now : Nat) (key : String) :
    Applied (.delete now key) (s.expire now) (s.delete now key).2 [.delete key] := by
  obtain ⟨t, happ⟩ : ∃ t, (s.expire now).applyWrites [.delete key] = .ok t := by
    rw [applyWrites_eq, missingLease?_eq_none (by simp)]
    exact ⟨_, rfl⟩
  have after : (s.delete now key).2 = t.publish := by
    simp [Store.delete, Store.call, bind, Except.bind, happ, pure, Except.pure]
  rw [after]
  exact Applied.written hc.expire.entries_sorted happ

theorem delete_gone (hc : s.Consistent) (now : Nat) (key : String) :
    (s.delete now key).2.find? key = none := by
  rw [(delete_applied hc now key).find? key]
  simp [WriteOp.entryAfter]

section

variable (hc : s.Consistent) (hd : ConfigsDetached ks s)
include hc hd

/-! The store calls of the configuration operations. Reads, watches and receives write nothing;
a put, a deletion or a compare-and-put of one configuration writes its key alone. -/

theorem get_keepsConfigs (key : String) : KeepsConfigs ks (fun _ => True) s (s.get now key).2 :=
  Call.keepsConfigs_of_nil (c := .get now key) hc hd fun _ => rfl

theorem sweep_keepsConfigs (now : Nat) : KeepsConfigs ks (fun _ => True) s (s.expire now).publish := by
  have read : KeepsConfigs ks (fun _ => True) s (s.get now "").2 := get_keepsConfigs hc hd ""
  rwa [get_eq] at read

theorem watch_keepsConfigs (filter : KeyFilter) (start : Revision) :
    KeepsConfigs ks (fun _ => True) s (s.watch now filter start).2 :=
  Call.keepsConfigs_of_nil (c := .watch now filter start) hc hd fun _ => rfl

theorem poll_keepsConfigs (sub : Subscription) : KeepsConfigs ks (fun _ => True) s (s.poll sub).2.2 :=
  Call.keepsConfigs_of_nil (c := .poll sub) hc hd fun _ => rfl

theorem unwatch_keepsConfigs (sub : Subscription) : KeepsConfigs ks (fun _ => True) s (s.unwatch sub) :=
  Call.keepsConfigs_of_nil (c := .unwatch sub) hc hd fun _ => rfl

theorem put_keepsConfigs (name value : String) (b : LeaseBinding) :
    KeepsConfigs ks (· ≠ name) s (s.put now (ks.configKey name) value b).2 :=
  Call.keepsOtherConfigs (c := .put now (ks.configKey name) value b) hc hd fun _ _ hop =>
    .inr ⟨value, b, List.mem_singleton.1 hop⟩

theorem delete_keepsConfigs (name : String) :
    KeepsConfigs ks (· ≠ name) s (s.delete now (ks.configKey name)).2 :=
  Call.keepsOtherConfigs (c := .delete now (ks.configKey name)) hc hd fun _ _ hop =>
    .inl (List.mem_singleton.1 hop)

theorem txn_configCas_keepsConfigs (name value : String) (version : Int) :
    KeepsConfigs ks (· ≠ name) s (s.txn now (configCas (ks.configKey name) value version)).2 :=
  Call.keepsOtherConfigs (c := .txn now (configCas (ks.configKey name) value version)) hc hd
    fun t op hop => by
      -- the transaction puts the value on success and writes nothing otherwise
      simp only [Call.writesAt] at hop
      split at hop
      · exact .inr ⟨value, .detach, List.mem_singleton.1 hop⟩
      · cases hop

end

end Store

/-! ## The mirror -/

/-- The ledger mirrors the store's configurations: the store is consistent; the ledger is open
and has at most one row per name; and the key of a configuration holds a value, under no lease,
exactly when the configuration's row is active with that value. -/
structure LedgerMirror (p : Plane) : Prop where
  consistent : p.store.Consistent
  opened : p.index.closed = false
  rows : (p.index.configs.map (·.name)).Nodup
  detached : Store.ConfigsDetached p.keyspace p.store
  mirrors : ∀ name,
    (p.store.find? (p.keyspace.configKey name)).map (·.value) = p.index.activeValue name

namespace LedgerMirror

variable {p p' : Plane}

/-- A change that keeps every configuration entry and every row keeps the mirror. -/
theorem keep (hm : LedgerMirror p) (hk : p'.keyspace = p.keyspace)
    (hs : Store.KeepsConfigs p.keyspace (fun _ => True) p.store p'.store)
    (hclosed : p'.index.closed = p.index.closed) (hrows : p'.index.configs = p.index.configs) :
    LedgerMirror p' where
  consistent := hs.consistent
  opened := hclosed.trans hm.opened
  rows := hrows ▸ hm.rows
  detached := hk ▸ hs.detached hm.detached
  mirrors name := by
    rw [hk, hs.find? name trivial, hm.mirrors, Index.activeValue, Index.activeValue, hrows]

/-- A write of one configuration to both the store and the ledger keeps the mirror. -/
theorem write {c : ConfigChange} (hm : LedgerMirror p) (hk : p'.keyspace = p.keyspace)
    (hs : Store.KeepsConfigs p.keyspace (· ≠ c.name) p.store p'.store)
    (written : ∃ e, p'.store.find? (p.keyspace.configKey c.name) = some e ∧ e.value = c.value ∧
      e.lease = 0)
    (hix : p.index.recordPut c = .ok p'.index) : LedgerMirror p' where
  consistent := hs.consistent
  opened := (Index.recordPut_ok hix).2
  rows := Index.recordPut_rows hix hm.rows
  detached n e he := by
    rw [hk] at he
    by_cases same : n = c.name
    · obtain ⟨e', he', -, hl⟩ := written
      rw [same, he'] at he
      cases he
      exact hl
    · rw [hs.find? n same] at he
      exact hm.detached n e he
  mirrors n := by
    rw [hk, Index.recordPut_activeValue hix]
    by_cases same : n = c.name
    · obtain ⟨e, he, hv, -⟩ := written
      simp [same, he, hv]
    · rw [if_neg same, hs.find? n same, hm.mirrors]

/-- A deletion of one configuration from both the store and the ledger keeps the mirror. -/
theorem erase {name : String} (hm : LedgerMirror p) (hk : p'.keyspace = p.keyspace)
    (hs : Store.KeepsConfigs p.keyspace (· ≠ name) p.store p'.store)
    (gone : p'.store.find? (p.keyspace.configKey name) = none)
    (hix : p.index.markDeleted name = .ok p'.index) : LedgerMirror p' where
  consistent := hs.consistent
  opened := (Index.markDeleted_fields hix).1.trans hm.opened
  rows := (Index.markDeleted_rows hix) ▸ hm.rows
  detached n e he := by
    rw [hk] at he
    by_cases same : n = name
    · rw [same, gone] at he
      cases he
    · rw [hs.find? n same] at he
      exact hm.detached n e he
  mirrors n := by
    rw [hk, Index.markDeleted_activeValue hix]
    by_cases same : n = name
    · simp [same, gone]
    · rw [if_neg same, hs.find? n same, hm.mirrors]

theorem start (ks : KeySpace) (historyLimit channelCapacity : Nat) :
    LedgerMirror { keyspace := ks, store := Store.make historyLimit channelCapacity } where
  consistent := Store.consistent_make historyLimit channelCapacity
  opened := rfl
  rows := List.nodup_nil
  detached _ _ h := nomatch h
  mirrors _ := rfl

end LedgerMirror

end ControlPlane
