import ControlPlane.Proofs.Store.Entries
import ControlPlane.Proofs.Store.LeaseLife
import ControlPlane.Proofs.Plane.Triple
import ControlPlane.Configs.Basic

/-!
# Configuration operations, call by call

Each configuration operation makes one store call and at most one ledger call. This module
says what each does as one outcome of the plane it starts from: the store call at the plane's
clock, the ledger call on the plane's ledger, and the result (`casOutcome`, `forceOutcome`,
`readOutcome`, `deleteOutcome`), and proves each operation equal to its outcome with its
counters moved. Later proofs read the outcomes and never unfold the operations.

Under them sit the store calls a configuration write makes: a transaction that puts the value
only while the key's mod revision is the version (`configCas`), or an unconditional put. On a
consistent store both answer; a put that lands leaves the value under no lease at the revision
it answers, one past the swept store's, and a refused transaction writes nothing.
-/

namespace ControlPlane

open ControlPlane.Action

/-- The write of a configuration that lands only while its key's mod revision is
`version`. -/
def configCas (key value : String) (version : Int) : ConditionalWrite :=
  { conditions := [.modRevisionEquals key version], onSuccess := [.put key value .detach] }

theorem configCas_eq (key value : String) (version : Int) :
    ({ conditions := [.modRevisionEquals key version], onSuccess := [.put key value .detach] } :
      ConditionalWrite) = configCas key value version := rfl

namespace Store

variable {s : Store} {now : Nat} {key value : String}

/-- The mod revision of a key as conditions read it: its entry's, or 0 without one. -/
def modRevisionOf (s : Store) (k : String) : Revision := ((s.find? k).map (·.modRevision)).getD 0

theorem holds_modRevisionEquals (k : String) (r : Revision) :
    s.holds (.modRevisionEquals k r) = (s.modRevisionOf k == r) := rfl

/-- A put that its call applied alone leaves the value under the lease its binding picks, at the
revision after the swept store's, which is the revision the call leaves. -/
theorem Applied.put_alone {c : Call} {t after : Store} {b : LeaseBinding}
    (applied : Applied c t after [.put key value b]) (hc : after.Consistent) :
    after.revision = t.revision + 1 ∧ ∃ e, after.find? key = some e ∧ e.value = value ∧
      e.modRevision = after.revision ∧ e.lease = b.target (((t.find? key).map (·.lease)).getD 0) := by
  have entry := applied.find? key
  simp only [List.foldl_cons, List.foldl_nil, WriteOp.entryAfter, if_true] at entry
  -- the entry's revision is bounded by the store's, which moved by at most one
  have raised : t.revision + 1 ≤ after.revision := hc.modRevision_le entry
  have level : after.revision = t.revision + 1 := le_antisymm applied.le_revision raised
  exact ⟨level, _, entry, rfl, level.symm, rfl⟩

theorem put_applied (hc : s.Consistent) {b : LeaseBinding} {rev : Revision}
    (h : (s.put now key value b).1 = .ok rev) :
    rev = (s.put now key value b).2.revision ∧
      Applied (.put now key value b) (s.expire now) (s.put now key value b).2 [.put key value b] := by
  obtain ⟨t, happ, hpure⟩ := Except.bind_eq_ok (Store.call_ok h)
  obtain ⟨rfl, sent⟩ := Prod.mk.inj (Except.ok.inj hpure)
  rw [Store.put, Store.call_snd, ← sent]
  exact ⟨rfl, Applied.written hc.expire.entries_sorted happ⟩

/-- A detached put on a consistent store lands: the key holds the value under no lease, at the
revision the put answers, one past the swept store's. -/
theorem put_detached (now : Nat) (key value : String) (hc : s.Consistent) :
    (s.put now key value .detach).1 = .ok (s.put now key value .detach).2.revision ∧
      (s.put now key value .detach).2.revision = (s.expire now).revision + 1 ∧
      ∃ e, (s.put now key value .detach).2.find? key = some e ∧ e.value = value ∧
        e.modRevision = (s.put now key value .detach).2.revision ∧ e.lease = 0 := by
  obtain ⟨rev, answered⟩ : ∃ rev, (s.put now key value .detach).1 = .ok rev :=
    Store.put_ok hc fun _ h => nomatch h
  obtain ⟨rfl, applied⟩ := put_applied hc answered
  obtain ⟨level, e, entry, hv, hm, hl⟩ := applied.put_alone (hc.apply (.put now key value .detach))
  exact ⟨answered, level, e, entry, hv, hm, hl⟩

/-- A compare-and-put whose version is the key's mod revision on the swept store lands: the key
holds the value under no lease, at the revision the transaction answers, one past the swept
store's. -/
theorem txn_cas_landed {v : Int} (value : String) (hc : s.Consistent)
    (h : (s.expire now).modRevisionOf key = v) :
    (s.txn now (configCas key value v)).1 = .ok (true, (s.txn now (configCas key value v)).2.revision) ∧
      (s.txn now (configCas key value v)).2.revision = (s.expire now).revision + 1 ∧
      ∃ e, (s.txn now (configCas key value v)).2.find? key = some e ∧ e.value = value ∧
        e.modRevision = (s.txn now (configCas key value v)).2.revision ∧ e.lease = 0 := by
  obtain ⟨⟨ok, rev⟩, answered⟩ : ∃ r, (s.txn now (configCas key value v)).1 = .ok r :=
    Store.txn_ok hc fun k v' id hmem => by simp [configCas] at hmem
  obtain ⟨holds, rfl, applied⟩ := txn_applied hc answered
  have landed : ok = true := by
    rw [holds]
    simp [configCas, holds_modRevisionEquals, h]
  subst landed
  have picked : (Call.txn now (configCas key value v)).writesAt (s.expire now) =
      [.put key value .detach] := by
    simp [Call.writesAt, configCas, holds_modRevisionEquals, h]
  rw [picked] at applied
  obtain ⟨level, e, entry, hv, hm, hl⟩ := applied.put_alone (hc.apply (.txn now _))
  exact ⟨answered, level, e, entry, hv, hm, hl⟩

/-- A compare-and-put whose version is not the key's mod revision on the swept store answers
that it did not land, and writes nothing: the key and the revision are the swept store's. -/
theorem txn_cas_refused {v : Int} (value : String) (hc : s.Consistent)
    (h : (s.expire now).modRevisionOf key ≠ v) :
    (s.txn now (configCas key value v)).1 = .ok (false, (s.txn now (configCas key value v)).2.revision) ∧
      (s.txn now (configCas key value v)).2.revision = (s.expire now).revision ∧
      (s.txn now (configCas key value v)).2.find? key = (s.expire now).find? key := by
  obtain ⟨⟨ok, rev⟩, answered⟩ : ∃ r, (s.txn now (configCas key value v)).1 = .ok r :=
    Store.txn_ok hc fun k v' id hmem => by simp [configCas] at hmem
  obtain ⟨holds, rfl, applied⟩ := txn_applied hc answered
  have refused : ok = false := by
    rw [holds]
    simp [configCas, holds_modRevisionEquals, h]
  subst refused
  have picked : (Call.txn now (configCas key value v)).writesAt (s.expire now) = [] := by
    simp [Call.writesAt, configCas, holds_modRevisionEquals, h]
  rw [picked] at applied
  exact ⟨answered, applied.unwritten rfl, applied.find? key⟩

end Store

/-! ## Operations as outcomes -/

/-- A write that landed at revision `rev`, leaving the store `s`, as the ledger's record of it
answers: the revision, or the ledger's error. -/
def recordedWrite (p : Plane) (c : ConfigChange) (rev : Revision) (s : Store) :
    Except Error Revision × Plane :=
  match p.index.recordPut c with
  | .ok ix => (.ok rev, { p with store := s, index := ix })
  | .error e => (.error e, { p with store := s })

/-- What a put at a version of at least 0 answers and leaves, its counters apart: the
compare-and-put at the plane's clock and, when it landed, the ledger's record of it. -/
def casOutcome (p : Plane) (c : ConfigChange) (version : Int) : Except Error Revision × Plane :=
  let r := p.store.txn p.clock (configCas (p.keyspace.configKey c.name) c.value version)
  match r.1 with
  | .ok (true, rev) => recordedWrite p c rev r.2
  | .ok (false, _) =>
    (.error ⟨.invalidVersion, c.name ++ "@" ++ toString version⟩, { p with store := r.2 })
  | .error e => (.error (Error.ofStore e "put config fail"), { p with store := r.2 })

theorem exec_putConfig_cas {tag name remark value : String} {appId version : Int}
    (hname : checkName name = .ok ()) (hv : 0 ≤ version) (p : Plane) :
    (putConfig tag name appId remark value version).exec p =
      ((casOutcome p ⟨tag, name, appId, remark, value⟩ version).1,
        { (casOutcome p ⟨tag, name, appId, remark, value⟩ version).2 with
          metrics := (casOutcome p ⟨tag, name, appId, remark, value⟩ version).2.metrics.recordResult
            .configPut (casOutcome p ⟨tag, name, appId, remark, value⟩ version).1 }) := by
  unfold putConfig
  apply exec_recorded_of
  rw [exec_check_bind_of_ok hname]
  dsimp only
  rw [exec_get_bind, if_neg (not_lt.2 hv), exec_bind, exec_onStore, configCas_eq]
  unfold casOutcome
  dsimp only
  rcases p.store.txn p.clock (configCas (p.keyspace.configKey name) value version) with
    ⟨_ | ⟨_ | _, rev⟩, s'⟩
  · rfl
  · rfl
  · -- the write landed: the ledger records it
    simp only [Bool.not_true, Bool.false_eq_true, if_false]
    rw [exec_bind, exec_pure]
    dsimp only
    rw [exec_bind, exec_onIndexWrite]
    unfold recordedWrite
    cases p.index.recordPut ⟨tag, name, appId, remark, value⟩ <;> rfl

/-- What a put at a negative version answers and leaves, its counters apart: the unconditional
put at the plane's clock and, when it answered, the ledger's record of it. -/
def forceOutcome (p : Plane) (c : ConfigChange) : Except Error Revision × Plane :=
  let r := p.store.put p.clock (p.keyspace.configKey c.name) c.value .detach
  match r.1 with
  | .ok rev => recordedWrite p c rev r.2
  | .error e => (.error (Error.ofStore e "put config fail"), { p with store := r.2 })

theorem exec_putConfig_force {tag name remark value : String} {appId version : Int}
    (hname : checkName name = .ok ()) (hv : version < 0) (p : Plane) :
    (putConfig tag name appId remark value version).exec p =
      ((forceOutcome p ⟨tag, name, appId, remark, value⟩).1,
        { (forceOutcome p ⟨tag, name, appId, remark, value⟩).2 with
          metrics := (forceOutcome p ⟨tag, name, appId, remark, value⟩).2.metrics.recordResult
            .configPut (forceOutcome p ⟨tag, name, appId, remark, value⟩).1 }) := by
  unfold putConfig
  apply exec_recorded_of
  rw [exec_check_bind_of_ok hname]
  dsimp only
  rw [exec_get_bind, if_pos hv, exec_bind, exec_onStore]
  unfold forceOutcome
  dsimp only
  rcases p.store.put p.clock (p.keyspace.configKey name) value .detach with ⟨_ | rev, s'⟩
  · rfl
  · -- the put answered: the ledger records it
    dsimp only
    rw [exec_bind, exec_onIndexWrite]
    unfold recordedWrite
    cases p.index.recordPut ⟨tag, name, appId, remark, value⟩ <;> rfl

/-- What a read of a configuration answers and leaves, its counters apart: the entry of the
swept store and, when there is one, the ledger's note of the version handed out. -/
def readOutcome (p : Plane) (appId : Int) (node name : String) :
    Except Error (ConfigItem × Revision) × Plane :=
  let t := p.store.expire p.clock
  match t.find? (p.keyspace.configKey name) with
  | none => (.error ⟨.notFound, name⟩, { p with store := t.publish })
  | some kv => match p.index.recordObserved appId node name kv.modRevision with
    | .ok ix => (.ok (ConfigItem.ofEntry name kv, t.revision), { p with store := t.publish, index := ix })
    | .error e => (.error e, { p with store := t.publish })

theorem exec_readConfig {appId : Int} {node name : String} (hname : checkName name = .ok ())
    (p : Plane) : (readConfig appId node name).exec p = readOutcome p appId node name := by
  unfold readConfig
  rw [exec_check_bind_of_ok hname]
  dsimp only
  rw [exec_get_bind, exec_bind, exec_onStore, Store.get_eq]
  unfold readOutcome
  dsimp only
  cases (p.store.expire p.clock).find? (p.keyspace.configKey name) with
  | none => rfl
  | some kv =>
    -- the entry is read: the ledger notes the version handed out
    dsimp only
    rw [exec_bind, exec_onIndexWrite]
    dsimp only [ConfigItem.ofEntry]
    cases p.index.recordObserved appId node name kv.modRevision <;> rfl

theorem exec_getConfig {appId : Int} {node name : String} (hname : checkName name = .ok ())
    (p : Plane) : (getConfig appId node name).exec p =
      ((readOutcome p appId node name).1, { (readOutcome p appId node name).2 with
        metrics := (readOutcome p appId node name).2.metrics.recordResult .configGet
          (readOutcome p appId node name).1 }) :=
  exec_recorded_of (exec_readConfig hname p)

/-- What a deletion of a configuration answers and leaves, its counters apart: the ledger marks
the configuration deleted, and then the key is deleted at the plane's clock. -/
def deleteOutcome (p : Plane) (name : String) : Except Error Unit × Plane :=
  match p.index.markDeleted name with
  | .error e => (.error e, p)
  | .ok ix =>
    let r := p.store.delete p.clock (p.keyspace.configKey name)
    match r.1 with
    | .ok _ => (.ok (), { p with index := ix, store := r.2 })
    | .error e => (.error (Error.ofStore e "delete config fail"), { p with index := ix, store := r.2 })

theorem exec_deleteConfig {name : String} (hname : checkName name = .ok ()) (p : Plane) :
    (deleteConfig name).exec p = ((deleteOutcome p name).1, { (deleteOutcome p name).2 with
      metrics := (deleteOutcome p name).2.metrics.recordResult .configDelete
        (deleteOutcome p name).1 }) := by
  unfold deleteConfig
  apply exec_recorded_of
  rw [exec_check_bind_of_ok hname]
  dsimp only
  rw [exec_bind, exec_onIndexWrite]
  unfold deleteOutcome
  cases p.index.markDeleted name with
  | error e => rfl
  | ok ix =>
    -- the ledger marked it: the key goes
    dsimp only
    rw [exec_get_bind, exec_bind, exec_onStore]
    rcases p.store.delete p.clock (p.keyspace.configKey name) with ⟨_ | _, s'⟩ <;> rfl

/-! ## The ledger calls -/

namespace Index

variable {ix : Index}

/-- A write record fails only on a closed ledger, and then with the ledger's error. -/
theorem recordPut_error {c : ConfigChange} {e : Error} (h : ix.recordPut c = .error e) :
    ix.closed = true ∧ e = Error.ofIndex "new db tx fail" := by
  unfold recordPut ensureOpen at h
  cases hc : ix.closed with
  | false => simp [hc, bind, Except.bind, pure, Except.pure] at h
  | true =>
    simp only [hc, if_true] at h
    cases h
    exact ⟨rfl, rfl⟩

theorem recordPut_open (h : ix.closed = false) (c : ConfigChange) :
    ∃ ix', ix.recordPut c = .ok ix' ∧ ix'.closed = false := by
  unfold recordPut ensureOpen
  simp only [h, Bool.false_eq_true, if_false]
  exact ⟨_, rfl, h⟩

/-- An open ledger notes every version handed out and stays open. -/
theorem recordObserved_open (h : ix.closed = false) (appId : Int) (node name : String)
    (version : Int) :
    ∃ ix', ix.recordObserved appId node name version = .ok ix' ∧ ix'.closed = false := by
  unfold recordObserved
  by_cases untracked : appId ≤ 0
  · simp only [untracked, if_true]
    exact ⟨ix, rfl, h⟩
  · unfold ensureOpen
    simp only [untracked, if_false, h, Bool.false_eq_true]
    exact ⟨_, rfl, h⟩

/-- A ledger that recorded a write was open, and stays open. -/
theorem recordPut_ok {c : ConfigChange} {ix' : Index} (h : ix.recordPut c = .ok ix') :
    ix.closed = false ∧ ix'.closed = false := by
  cases hc : ix.closed with
  | true =>
    unfold recordPut ensureOpen at h
    simp [hc, throw, throwThe, MonadExceptOf.throw, bind, Except.bind] at h
  | false =>
    obtain ⟨ix'', hr, hopen⟩ := recordPut_open hc c
    rw [hr] at h
    cases h
    exact ⟨rfl, hopen⟩

end Index

/-! ## What the outcomes are on a consistent store -/

section

variable {p : Plane} {c : ConfigChange} {version : Int}

/-- A put at a version that is not the key's mod revision on the swept store is refused as an
invalid version, and leaves the store its transaction left. -/
theorem casOutcome_refused (hc : p.store.Consistent)
    (h : (p.store.expire p.clock).modRevisionOf (p.keyspace.configKey c.name) ≠ version) :
    casOutcome p c version = (.error ⟨.invalidVersion, c.name ++ "@" ++ toString version⟩,
      { p with store := (p.store.txn p.clock
        (configCas (p.keyspace.configKey c.name) c.value version)).2 }) := by
  obtain ⟨answered, -, -⟩ := Store.txn_cas_refused c.value hc h
  unfold casOutcome
  dsimp only
  rw [answered]

/-- A put at the key's mod revision on the swept store lands at the revision after the swept
store's; what it answers is then the ledger's to say. -/
theorem casOutcome_landed (hc : p.store.Consistent)
    (h : (p.store.expire p.clock).modRevisionOf (p.keyspace.configKey c.name) = version) :
    casOutcome p c version = recordedWrite p c ((p.store.expire p.clock).revision + 1)
      (p.store.txn p.clock (configCas (p.keyspace.configKey c.name) c.value version)).2 := by
  obtain ⟨answered, level, -⟩ := Store.txn_cas_landed c.value hc h
  unfold casOutcome
  dsimp only
  rw [answered, level]

/-- A put at a negative version lands at the revision after the swept store's; what it answers
is then the ledger's to say. -/
theorem forceOutcome_eq (hc : p.store.Consistent) :
    forceOutcome p c = recordedWrite p c ((p.store.expire p.clock).revision + 1)
      (p.store.put p.clock (p.keyspace.configKey c.name) c.value .detach).2 := by
  obtain ⟨answered, level, -⟩ := Store.put_detached p.clock (p.keyspace.configKey c.name) c.value hc
  unfold forceOutcome
  dsimp only
  rw [answered, level]

/-- A landed write answers its revision when the ledger is open, and the ledger's error
otherwise. -/
theorem recordedWrite_answer (rev : Revision) (s : Store) :
    ((recordedWrite p c rev s).1 = .ok rev ∨
      (recordedWrite p c rev s).1 = .error (Error.ofIndex "new db tx fail")) ∧
    (p.index.closed = false → (recordedWrite p c rev s).1 = .ok rev ∧
      (recordedWrite p c rev s).2.index.closed = false) := by
  unfold recordedWrite
  constructor
  · cases hr : p.index.recordPut c with
    | ok ix => exact .inl rfl
    | error e => exact .inr (by rw [(Index.recordPut_error hr).2])
  · intro hopen
    obtain ⟨ix, hr, hix⟩ := Index.recordPut_open hopen c
    rw [hr]
    exact ⟨rfl, hix⟩

/-- A read of a key whose entry no lease holds answers that entry, at the swept store's
revision, while the ledger is open. -/
theorem readOutcome_found {appId : Int} {node name : String} (hc : p.store.Consistent)
    {kv : KeyValue} (he : p.store.find? (p.keyspace.configKey name) = some kv) (hl : kv.lease = 0)
    (hopen : p.index.closed = false) :
    (readOutcome p appId node name).1 =
      .ok (ConfigItem.ofEntry name kv, (p.store.expire p.clock).revision) := by
  have kept : (p.store.expire p.clock).find? (p.keyspace.configKey name) = some kv :=
    (Store.Prunes.expire hc p.clock).unleased _ kv he hl
  obtain ⟨ix, noted, -⟩ := Index.recordObserved_open hopen appId node name kv.modRevision
  unfold readOutcome
  dsimp only
  rw [kept]
  dsimp only
  rw [noted]

/-- A landed write that answered its revision was recorded by an open ledger, which stays
open. -/
theorem recordedWrite_ok {rev rev' : Revision} {s : Store}
    (h : (recordedWrite p c rev s).1 = .ok rev') :
    rev' = rev ∧ p.index.closed = false ∧
      ∃ ix, ix.closed = false ∧ (recordedWrite p c rev s).2 = { p with store := s, index := ix } := by
  unfold recordedWrite at h ⊢
  cases hr : p.index.recordPut c with
  | error e => rw [hr] at h; cases h
  | ok ix =>
    rw [hr] at h
    cases h
    have opened := Index.recordPut_ok hr
    exact ⟨rfl, opened.1, ix, opened.2, rfl⟩

theorem recordedWrite_ne_invalid {rev : Revision} {s : Store} (m : String) :
    (recordedWrite p c rev s).1 ≠ .error ⟨.invalidVersion, m⟩ := by
  intro h
  rcases (recordedWrite_answer rev s).1 with answered | failed
  · rw [answered] at h
    cases h
  · rw [failed] at h
    cases h

/-- A read that answers found an entry on the swept store, hands out its item at the swept
store's revision, and leaves the swept store published. -/
theorem readOutcome_ok {appId : Int} {node name : String} {item : ConfigItem} {r : Revision}
    (h : (readOutcome p appId node name).1 = .ok (item, r)) :
    ∃ kv, (p.store.expire p.clock).find? (p.keyspace.configKey name) = some kv ∧
      item = ConfigItem.ofEntry name kv ∧ r = (p.store.expire p.clock).revision ∧
      ∃ ix, (readOutcome p appId node name).2 =
        { p with store := (p.store.expire p.clock).publish, index := ix } := by
  unfold readOutcome at h ⊢
  dsimp only at h ⊢
  cases hf : (p.store.expire p.clock).find? (p.keyspace.configKey name) with
  | none => rw [hf] at h; cases h
  | some kv =>
    rw [hf] at h
    dsimp only at h ⊢
    cases hr : p.index.recordObserved appId node name kv.modRevision with
    | error e => rw [hr] at h; cases h
    | ok ix =>
      rw [hr] at h
      cases h
      exact ⟨kv, rfl, rfl, rfl, ix, rfl⟩

end

end ControlPlane
