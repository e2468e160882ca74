import ControlPlane.Proofs.Configs.Calls
import ControlPlane.Proofs.Store.Delivery

/-!
# Configuration versions lose no update

A configuration's version is the mod revision of its key. A put at a version of at least 0 is a
compare-and-put: it lands exactly when the version is the key's mod revision as its transaction
sees it, 0 for an absent key (`putConfig_landed_iff`), and is refused as an invalid version
otherwise (`putConfig_refused_iff`). A put that lands leaves the value under no lease at the
revision it answers, which a read right after hands out as the version (`Landed`,
`putConfig_ok_read`).

A refused put writes nothing: the key keeps its entry, and the store keeps the revision its
sweep left. The sweep runs first in every store call; when a lease is due, it deletes the
lease's keys in a revision of its own, so the store revision does move then. It stays where it
was when no entry is held by a due lease (`putConfig_invalid_keeps`).

Every write is made at a revision past every earlier one, so a key never gets a mod revision it
had before (`Store.Runs.modRevision_grows`). Hence of two puts with one version at least 1, the
later fails (`putConfig_token_spent`), and a put that lands overwrote exactly the entry that the
read which gave it its version found (`putConfig_overwrites_observed`).
-/

namespace ControlPlane

open ControlPlane.Action

namespace Store

variable {s : Store} {k : String} {v : Int}

/-- A mod revision of at least 1 is that of an entry. -/
theorem modRevisionOf_eq_some (h : s.modRevisionOf k = v) (hv : 1 ≤ v) :
    ∃ e, s.find? k = some e ∧ e.modRevision = v := by
  unfold modRevisionOf at h
  cases he : s.find? k with
  | none =>
    rw [he] at h
    exact absurd (h ▸ hv) (by decide)
  | some e =>
    rw [he] at h
    exact ⟨e, rfl, h⟩

theorem modRevisionOf_ne (hv : 1 ≤ v) (newer : ∀ e, s.find? k = some e → v < e.modRevision) :
    s.modRevisionOf k ≠ v := by
  intro same
  obtain ⟨e, he, hm⟩ := modRevisionOf_eq_some same hv
  exact absurd (hm ▸ newer e he) (lt_irrefl v)

end Store

/-- A configuration write that landed at revision `rev` on plane `p`, leaving plane `p'`: the
keyspace is kept and the store stays consistent; the key holds the value under no lease at
`rev`, one past the swept store's and the revision the store is at; and the ledger that
recorded the write is open. -/
structure Landed (p : Plane) (name value : String) (rev : Revision) (p' : Plane) : Prop where
  keyspace : p'.keyspace = p.keyspace
  consistent : p'.store.Consistent
  revision : rev = (p.store.expire p.clock).revision + 1
  stored : p'.store.revision = rev
  entry : ∃ e, p'.store.find? (p.keyspace.configKey name) = some e ∧ e.value = value ∧
    e.modRevision = rev ∧ e.lease = 0
  ledger : p'.index.closed = false

section

variable {tag name remark value : String} {appId version : Int} {p : Plane}

/-- A write whose store call left `s` with the value at the revision after the swept store's,
and that the ledger recorded, landed. -/
theorem Landed.of_recorded {c : ConfigChange} {rev rev' : Revision} {s : Store}
    (hn : c.name = name) (hs : s.Consistent) (level : s.revision = rev)
    (hrev : rev = (p.store.expire p.clock).revision + 1)
    (entry : ∃ e, s.find? (p.keyspace.configKey name) = some e ∧ e.value = value ∧
      e.modRevision = rev ∧ e.lease = 0)
    (h : (recordedWrite p c rev s).1 = .ok rev') :
    rev' = rev ∧ ∀ m, Landed p name value rev { (recordedWrite p c rev s).2 with metrics := m } := by
  obtain ⟨rfl, -, ix, hopen, hplane⟩ := recordedWrite_ok h
  subst hn
  refine ⟨rfl, fun m => ?_⟩
  rw [hplane]
  exact ⟨rfl, hs, hrev, level, entry, hopen⟩

/-- A put that answers a revision landed there; at a version of at least 0 the version was the
key's mod revision on the swept store. -/
theorem putConfig_landed_of_ok (hname : checkName name = .ok ()) (hc : p.store.Consistent)
    {rev : Revision} (h : ((putConfig tag name appId remark value version).exec p).1 = .ok rev) :
    Landed p name value rev ((putConfig tag name appId remark value version).exec p).2 ∧
      (0 ≤ version →
        (p.store.expire p.clock).modRevisionOf (p.keyspace.configKey name) = version) := by
  by_cases hv : 0 ≤ version
  · rw [exec_putConfig_cas hname hv] at h ⊢
    -- a refused put answers an error, so this one landed
    by_cases eq : (p.store.expire p.clock).modRevisionOf (p.keyspace.configKey name) = version
    · rw [casOutcome_landed (c := ⟨tag, name, appId, remark, value⟩) hc eq] at h ⊢
      obtain ⟨-, level, e, he, hval, hmod, hl⟩ := Store.txn_cas_landed value hc eq
      have hs : (p.store.txn p.clock (configCas (p.keyspace.configKey name) value version)).2.Consistent :=
        hc.apply (.txn _ _)
      obtain ⟨rfl, landed⟩ := Landed.of_recorded rfl hs level rfl ⟨e, he, hval, hmod.trans level, hl⟩ h
      exact ⟨landed _, fun _ => eq⟩
    · rw [casOutcome_refused (c := ⟨tag, name, appId, remark, value⟩) hc eq] at h
      cases h
  · rw [exec_putConfig_force hname (lt_of_not_ge hv)] at h ⊢
    rw [forceOutcome_eq hc] at h ⊢
    obtain ⟨-, level, e, he, hval, hmod, hl⟩ :=
      Store.put_detached p.clock (p.keyspace.configKey name) value hc
    have hs : (p.store.put p.clock (p.keyspace.configKey name) value .detach).2.Consistent :=
      hc.apply (.put _ _ _ _)
    obtain ⟨rfl, landed⟩ := Landed.of_recorded rfl hs level rfl ⟨e, he, hval, hmod.trans level, hl⟩ h
    exact ⟨landed _, fun nonneg => absurd nonneg hv⟩

/-- A put at a version of at least 0 that is not the key's mod revision on the swept store is
refused as an invalid version, and leaves the store its refused transaction left. -/
theorem putConfig_refused (hname : checkName name = .ok ()) (hc : p.store.Consistent)
    (hv : 0 ≤ version)
    (h : (p.store.expire p.clock).modRevisionOf (p.keyspace.configKey name) ≠ version) :
    ((putConfig tag name appId remark value version).exec p).1 =
        .error ⟨.invalidVersion, name ++ "@" ++ toString version⟩ ∧
      ((putConfig tag name appId remark value version).exec p).2.store =
        (p.store.txn p.clock (configCas (p.keyspace.configKey name) value version)).2 := by
  rw [exec_putConfig_cas hname hv,
    casOutcome_refused (c := ⟨tag, name, appId, remark, value⟩) hc h]
  exact ⟨rfl, rfl⟩

/-- Only a put at a version of at least 0 that is not the key's mod revision is refused as an
invalid version. -/
theorem putConfig_invalid_of (hname : checkName name = .ok ()) (hc : p.store.Consistent)
    (h : ((putConfig tag name appId remark value version).exec p).1 =
      .error ⟨.invalidVersion, name ++ "@" ++ toString version⟩) :
    0 ≤ version ∧ (p.store.expire p.clock).modRevisionOf (p.keyspace.configKey name) ≠ version := by
  by_cases hv : 0 ≤ version
  · refine ⟨hv, fun eq => ?_⟩
    -- a put that landed answers what the ledger says, never an invalid version
    rw [exec_putConfig_cas hname hv,
      casOutcome_landed (c := ⟨tag, name, appId, remark, value⟩) hc eq] at h
    exact recordedWrite_ne_invalid _ h
  · rw [exec_putConfig_force hname (lt_of_not_ge hv), forceOutcome_eq hc] at h
    exact absurd h (recordedWrite_ne_invalid _)

/-- A put at a version of at least 0 is refused as an invalid version exactly when the version
is not the key's mod revision on the swept store (0 for an absent key). -/
theorem putConfig_refused_iff (hname : checkName name = .ok ()) (hc : p.store.Consistent)
    (hv : 0 ≤ version) :
    ((putConfig tag name appId remark value version).exec p).1 =
        .error ⟨.invalidVersion, name ++ "@" ++ toString version⟩ ↔
      (p.store.expire p.clock).modRevisionOf (p.keyspace.configKey name) ≠ version :=
  ⟨fun h => (putConfig_invalid_of hname hc h).2, fun h => (putConfig_refused hname hc hv h).1⟩

/-- With the ledger open, a put at a version of at least 0 answers a revision exactly when the
version is the key's mod revision on the swept store (0 for an absent key). -/
theorem putConfig_landed_iff (hname : checkName name = .ok ()) (hc : p.store.Consistent)
    (hv : 0 ≤ version) (hopen : p.index.closed = false) :
    (∃ rev, ((putConfig tag name appId remark value version).exec p).1 = .ok rev) ↔
      (p.store.expire p.clock).modRevisionOf (p.keyspace.configKey name) = version := by
  constructor
  · rintro ⟨rev, h⟩
    exact (putConfig_landed_of_ok hname hc h).2 hv
  · intro eq
    rw [exec_putConfig_cas hname hv,
      casOutcome_landed (c := ⟨tag, name, appId, remark, value⟩) hc eq]
    exact ⟨_, ((recordedWrite_answer _ _).2 hopen).1⟩

/-- A read right after a put that answered a revision hands out the put's value at that
revision as the version. -/
theorem putConfig_ok_read (hname : checkName name = .ok ()) (hc : p.store.Consistent)
    {rev : Revision} (h : ((putConfig tag name appId remark value version).exec p).1 = .ok rev)
    (appId' : Int) (node : String) :
    ∃ r, ((getConfig appId' node name).exec
      ((putConfig tag name appId remark value version).exec p).2).1 = .ok (⟨name, value, rev⟩, r) := by
  obtain ⟨landed, -⟩ := putConfig_landed_of_ok hname hc h
  obtain ⟨e, he, hval, hmod, hl⟩ := landed.entry
  rw [← landed.keyspace] at he
  rw [exec_getConfig hname, readOutcome_found landed.consistent he hl landed.ledger]
  simp [ConfigItem.ofEntry, hval, hmod]

/-- A put refused as an invalid version writes nothing: a key no lease holds keeps its entry,
and the store is at the revision its sweep left, the revision it was at when no entry is held
by a lease due then. -/
theorem putConfig_invalid_keeps (hname : checkName name = .ok ()) (hc : p.store.Consistent)
    (h : ((putConfig tag name appId remark value version).exec p).1 =
      .error ⟨.invalidVersion, name ++ "@" ++ toString version⟩)
    (hl : ∀ e, p.store.find? (p.keyspace.configKey name) = some e → e.lease = 0) :
    ((putConfig tag name appId remark value version).exec p).2.store.find?
        (p.keyspace.configKey name) = p.store.find? (p.keyspace.configKey name) ∧
      ((putConfig tag name appId remark value version).exec p).2.store.revision =
        (p.store.expire p.clock).revision ∧
      ((∀ e ∈ p.store.entries, ∀ l ∈ p.store.leases, l.id = e.lease →
          Store.LeaseRecord.isDue p.clock l = false) →
        ((putConfig tag name appId remark value version).exec p).2.store.revision =
          p.store.revision) := by
  obtain ⟨hv, ne⟩ := putConfig_invalid_of hname hc h
  have left : ((putConfig tag name appId remark value version).exec p).2.store =
      (p.store.txn p.clock (configCas (p.keyspace.configKey name) value version)).2 :=
    (putConfig_refused hname hc hv ne).2
  obtain ⟨-, level, kept⟩ := Store.txn_cas_refused value hc ne
  rw [left]
  -- the sweep keeps the key's entry, held by no lease, and adds none
  have swept : (p.store.expire p.clock).find? (p.keyspace.configKey name) =
      p.store.find? (p.keyspace.configKey name) :=
    (Store.Prunes.expire hc p.clock).find?_of_unleased hl
  refine ⟨kept.trans swept, level, fun quiet => ?_⟩
  rw [level]
  exact (Store.Consistent.expire_quiet hc quiet).1

/-- Once a put at a version `v ≥ 1` has landed, every later put at `v` is refused, whatever calls
came between: from then on every entry of the key is the landed one or newer, and the landed
one is newer than `v`. -/
theorem putConfig_token_spent (hname : checkName name = .ok ()) (hc : p.store.Consistent)
    (hv : 1 ≤ version) {rev : Revision}
    (h : ((putConfig tag name appId remark value version).exec p).1 = .ok rev) {p₂ : Plane}
    (hk : p₂.keyspace = p.keyspace)
    (hrun : Store.Runs ((putConfig tag name appId remark value version).exec p).2.store p₂.store)
    (tag₂ remark₂ value₂ : String) (appId₂ : Int) :
    ((putConfig tag₂ name appId₂ remark₂ value₂ version).exec p₂).1 =
      .error ⟨.invalidVersion, name ++ "@" ++ toString version⟩ := by
  have nonneg : 0 ≤ version := le_trans (by decide) hv
  obtain ⟨landed, matched⟩ := putConfig_landed_of_ok hname hc h
  -- the version was the mod revision of an entry of the swept store, older than the put
  obtain ⟨e₀, he₀, hm₀⟩ := Store.modRevisionOf_eq_some (matched nonneg) hv
  have older : version < rev := by
    rw [landed.revision, ← hm₀]
    exact Int.lt_add_one_iff.2 (hc.expire.modRevision_le he₀)
  have hc₂ : p₂.store.Consistent := hrun.consistent landed.consistent
  -- at the later put, the key's entry is the landed one or was written after it
  have newer : ∀ e, (p₂.store.expire p₂.clock).find? (p₂.keyspace.configKey name) = some e →
      version < e.modRevision := by
    intro e he
    have held := (Store.Prunes.expire hc₂ p₂.clock).kept _ e he
    rw [hk] at held
    obtain ⟨e₁, he₁, -, hm₁, -⟩ := landed.entry
    rcases hrun.find?_fresh landed.consistent held with before | fresh
    · have same : e₁ = e := Option.some.inj (he₁.symm.trans before)
      rw [← same, hm₁]
      exact older
    · rw [landed.stored] at fresh
      exact older.trans fresh
  exact (putConfig_refused hname hc₂ nonneg (Store.modRevisionOf_ne hv newer)).1

/-- A put whose version a read handed out, and that landed, overwrote the very entry that read
found: no write between the read and the put went unseen. -/
theorem putConfig_overwrites_observed (hname : checkName name = .ok ()) {p₀ p₀' : Plane}
    {appId₀ : Int} {node₀ : String} {item : ConfigItem} {r₀ : Revision}
    (hc₀ : p₀.store.Consistent) (hk : p.keyspace = p₀.keyspace)
    (hget : (getConfig appId₀ node₀ name).exec p₀ = (.ok (item, r₀), p₀'))
    (hrun : Store.Runs p₀'.store p.store) (hv : 1 ≤ item.version) {rev : Revision}
    (h : ((putConfig tag name appId remark value item.version).exec p).1 = .ok rev) :
    ∃ kv, p₀'.store.find? (p.keyspace.configKey name) = some kv ∧
      (p.store.expire p.clock).find? (p.keyspace.configKey name) = some kv ∧
      item = ConfigItem.ofEntry name kv := by
  -- what the read found, and the store it left
  rw [exec_getConfig hname] at hget
  obtain ⟨answered, left⟩ := Prod.mk.inj hget
  obtain ⟨kv, found, rfl, -, ix, hplane⟩ := readOutcome_ok answered
  have stored : p₀'.store = (p₀.store.expire p₀.clock).publish := by
    rw [← left, hplane]
  have seen : p₀'.store.find? (p.keyspace.configKey name) = some kv := by
    rw [stored, Store.find?_publish, hk]
    exact found
  have hc₀' : p₀'.store.Consistent := by
    rw [stored]
    exact hc₀.expire.publish
  have hc : p.store.Consistent := hrun.consistent hc₀'
  -- the put found an entry at the version the read handed out
  obtain ⟨-, matched⟩ := putConfig_landed_of_ok hname hc h
  obtain ⟨e, he, hm⟩ := Store.modRevisionOf_eq_some (matched (le_trans (by decide) hv)) hv
  have held := (Store.Prunes.expire hc p.clock).kept _ e he
  -- a newer write would have a mod revision past everything the read saw
  rcases hrun.find?_fresh hc₀' held with before | fresh
  · have same : kv = e := Option.some.inj (seen.symm.trans before)
    exact ⟨kv, seen, same ▸ he, rfl⟩
  · rw [hm] at fresh
    exact absurd (hc₀'.modRevision_le seen) (not_le.2 fresh)

end

/-! ## Puts lose no update -/

/-- Configuration puts lose no update. At a version of at least 0 a put is refused as an invalid
version exactly when the version is not the key's mod revision at its transaction, and with the
ledger open it lands exactly when it is. A put that lands leaves its value at the revision it
answers, which a read right after hands out as the version. A refused put leaves the key's
entry, and the store at the revision its sweep left: the revision it was at when no entry is
held by a due lease. Along any calls a key's entry is the one it had or has a later mod
revision; so once a put at a version of at least 1 landed, later puts at that version are
refused, and a put at a version a read handed out overwrote the entry that read found. -/
theorem config_puts_lose_no_update {tag name remark value : String} {appId version : Int}
    {p : Plane} (hname : checkName name = .ok ()) (hc : p.store.Consistent) :
    (0 ≤ version →
      (((putConfig tag name appId remark value version).exec p).1 =
          .error ⟨.invalidVersion, name ++ "@" ++ toString version⟩ ↔
        (p.store.expire p.clock).modRevisionOf (p.keyspace.configKey name) ≠ version) ∧
      (p.index.closed = false →
        ((∃ rev, ((putConfig tag name appId remark value version).exec p).1 = .ok rev) ↔
          (p.store.expire p.clock).modRevisionOf (p.keyspace.configKey name) = version))) ∧
    (∀ rev, ((putConfig tag name appId remark value version).exec p).1 = .ok rev →
      (∃ e, ((putConfig tag name appId remark value version).exec p).2.store.find?
          (p.keyspace.configKey name) = some e ∧ e.value = value ∧ e.modRevision = rev) ∧
      ∀ appId' node, ∃ r, ((getConfig appId' node name).exec
        ((putConfig tag name appId remark value version).exec p).2).1 =
          .ok (⟨name, value, rev⟩, r)) ∧
    (((putConfig tag name appId remark value version).exec p).1 =
        .error ⟨.invalidVersion, name ++ "@" ++ toString version⟩ →
      (∀ e, p.store.find? (p.keyspace.configKey name) = some e → e.lease = 0) →
      ((putConfig tag name appId remark value version).exec p).2.store.find?
          (p.keyspace.configKey name) = p.store.find? (p.keyspace.configKey name) ∧
        ((putConfig tag name appId remark value version).exec p).2.store.revision =
          (p.store.expire p.clock).revision ∧
        ((∀ e ∈ p.store.entries, ∀ l ∈ p.store.leases, l.id = e.lease →
            Store.LeaseRecord.isDue p.clock l = false) →
          ((putConfig tag name appId remark value version).exec p).2.store.revision =
            p.store.revision)) ∧
    (∀ (s s' : Store) (k : String) (e e' : KeyValue), s.Consistent → Store.Runs s s' →
      s.find? k = some e → s'.find? k = some e' → e' = e ∨ e.modRevision < e'.modRevision) ∧
    (1 ≤ version → ∀ rev, ((putConfig tag name appId remark value version).exec p).1 = .ok rev →
      ∀ (p₂ : Plane) (tag₂ remark₂ value₂ : String) (appId₂ : Int), p₂.keyspace = p.keyspace →
        Store.Runs ((putConfig tag name appId remark value version).exec p).2.store p₂.store →
        ((putConfig tag₂ name appId₂ remark₂ value₂ version).exec p₂).1 =
          .error ⟨.invalidVersion, name ++ "@" ++ toString version⟩) ∧
    (∀ (p₀ p₀' : Plane) (appId₀ : Int) (node₀ : String) (item : ConfigItem) (r₀ : Revision),
      p₀.store.Consistent → p.keyspace = p₀.keyspace →
      (getConfig appId₀ node₀ name).exec p₀ = (.ok (item, r₀), p₀') →
      Store.Runs p₀'.store p.store → version = item.version → 1 ≤ version →
      ∀ rev, ((putConfig tag name appId remark value version).exec p).1 = .ok rev →
        ∃ kv, p₀'.store.find? (p.keyspace.configKey name) = some kv ∧
          (p.store.expire p.clock).find? (p.keyspace.configKey name) = some kv ∧
          item = ConfigItem.ofEntry name kv) := by
  refine ⟨fun hv => ⟨putConfig_refused_iff hname hc hv, putConfig_landed_iff hname hc hv⟩,
    fun rev h => ⟨?_, putConfig_ok_read hname hc h⟩,
    fun h hl => putConfig_invalid_keeps hname hc h hl,
    fun s s' k e e' hs hrun he he' => hrun.modRevision_grows hs he he',
    fun hv rev h p₂ tag₂ remark₂ value₂ appId₂ hk hrun =>
      putConfig_token_spent hname hc hv h hk hrun tag₂ remark₂ value₂ appId₂, ?_⟩
  · obtain ⟨e, he, hval, hmod, -⟩ := (putConfig_landed_of_ok hname hc h).1.entry
    exact ⟨e, he, hval, hmod⟩
  · intro p₀ p₀' appId₀ node₀ item r₀ hc₀ hk hget hrun same hv rev h
    subst same
    exact putConfig_overwrites_observed hname hc₀ hk hget hrun hv h

/-- On a fresh plane a put at version 0 creates the configuration. -/
theorem fresh_config_put_at_zero_lands :
    ∃ rev, ((putConfig "ops" "feature.flags" 7 "" "on" 0).exec
      ({ store := Store.make 0 0 } : Plane)).1 = .ok rev :=
  (((config_puts_lose_no_update rfl
    (Store.consistent_make 0 0 : ({ store := Store.make 0 0 } : Plane).store.Consistent)).1
      (le_refl 0)).2 rfl).2 (by decide +kernel)

/-- A put refused as an invalid version still sweeps: a lease due at its call has its key
deleted in a revision of its own, so the store revision moves although the put wrote
nothing. -/
theorem refused_put_sweeps_due_lease :
    let leased := (((Store.make 0 0).grant 0 10).2.put 0 "/w/a" "1" (.attach 1)).2
    let o := (putConfig "t" "feature.flags" 0 "" "on" 5).exec ({ store := leased, clock := 10000 } : Plane)
    o.1 = .error ⟨.invalidVersion, "feature.flags@5"⟩ ∧ leased.revision = 2 ∧ o.2.store.revision = 3 := by
  intro leased o
  have hc : ({ store := leased, clock := 10000 } : Plane).store.Consistent :=
    ((Store.consistent_make 0 0).apply (.grant 0 10)).apply (.put 0 "/w/a" "1" (.attach 1))
  -- the key was never written, so its mod revision is 0 and version 5 is refused
  have hname : checkName "feature.flags" = .ok () := rfl
  refine ⟨?_, by decide +kernel, by decide +kernel⟩
  exact (putConfig_refused_iff hname hc (by decide : (0 : Int) ≤ 5)).2 (by decide +kernel)

end ControlPlane
