import ControlPlane.Proofs.Configs.Mirror
import ControlPlane.Plane.Watch

/-!
# Runs of configuration calls keep the ledger in step

A client of the configurations reads, writes, lists and deletes them, and watches them: a watch
opens a subscription and takes a first look, and may be looked at again later while other calls
run. Between calls time passes, and other clients call the store, writing keys that are not
configurations. `ConfigCall` is one such call, `runCalls` runs a list of them one after another.

Each call keeps the ledger mirroring the store (`LedgerMirror`), appends to the ledger's history
exactly the write of a put that answered a revision (`ConfigCall.landed`), and leaves, as the
version a tracked application's node observed, the version it handed out to that node
(`ConfigCall.handed`): a read or a watch that answered an item. This is `Mirrored`, proved for
every call (`ConfigCall.mirrorStep`); over a run it gives the ledger mirroring the store, the
history growing by the landed puts in call order, and each node observing the last version handed
to it (`config_ledger_mirrors_store`).

A call is split by what it does to the two halves: `Quiet` changes keep both, `ReadMoves` reads
keep the store's configurations and note at most the handed-out version, and the writes and
deletions of `LedgerMirror.write` and `LedgerMirror.erase` move one name in both.
-/

namespace ControlPlane

open ControlPlane.Action

/-! ## Calls and runs -/

/-- A call a client of the configurations makes, another client's store call, or time
passing. -/
inductive ConfigCall where
  | get (appId : Int) (node name : String)
  | put (tag name : String) (appId : Int) (remark value : String) (version : Int)
  | range (lower upper : String) (sort : Option (SortTarget × SortOrder))
  | delete (name : String)
  /-- Opens a watch of a configuration and takes a first look at it. -/
  | watch (appId : Int) (node name : String) (start : Revision) (timeoutMs : Nat) (cancelled : Bool)
  /-- Looks again at a watch of a configuration left waiting on its subscription. -/
  | look (appId : Int) (node name : String) (sub : Subscription) (deadline : Nat) (cancelled : Bool)
  /-- A call of the store made by another client. -/
  | other (c : Store.Call)
  | wait (ms : Nat)

/-- What a call answers. -/
inductive ConfigReply where
  | item (r : Except Error (ConfigItem × Revision))
  | revision (r : Except Error Revision)
  | items (r : Except Error (List ConfigItem × Bool))
  | deleted (r : Except Error Unit)
  | watch (s : WatchState)
  | store
  | waited

/-- Runs one call on the plane. -/
def ConfigCall.run : ConfigCall → Plane → ConfigReply × Plane
  | .get appId node name, p =>
    let o := (getConfig appId node name).exec p
    (.item o.1, o.2)
  | .put tag name appId remark value version, p =>
    let o := (putConfig tag name appId remark value version).exec p
    (.revision o.1, o.2)
  | .range lower upper sort, p =>
    let o := (rangeConfigs lower upper sort).exec p
    (.items o.1, o.2)
  | .delete name, p =>
    let o := (deleteConfig name).exec p
    (.deleted o.1, o.2)
  | .watch appId node name start timeoutMs cancelled, p =>
    let o := (startWatch (.config appId node name) start timeoutMs cancelled).run p
    (.watch o.1, o.2)
  | .look appId node name sub deadline cancelled, p =>
    let o := (Waiter.step ⟨.config appId node name, sub, deadline, cancelled⟩).run p
    (.watch o.1, o.2)
  | .other c, p => (.store, { p with store := c.apply p.store })
  | .wait ms, p => (.waited, { p with clock := p.clock + ms })

/-- Runs calls one after another, with what each answered. -/
def runCalls : List ConfigCall → Plane → List ConfigReply × Plane
  | [], p => ([], p)
  | c :: cs, p =>
    let first := c.run p
    let rest := runCalls cs first.2
    (first.1 :: rest.1, rest.2)

/-- A call of another client writes no configuration key, whatever the store. -/
def ConfigCall.SparesConfigs (ks : KeySpace) : ConfigCall → Prop
  | .other c => (∀ t n v b, .put (ks.configKey n) v b ∉ c.writesAt t) ∧
      ∀ t n, .delete (ks.configKey n) ∉ c.writesAt t
  | _ => True

/-- The write of a put that answered a revision. -/
def ConfigCall.landed : ConfigCall → ConfigReply → Option ConfigChange
  | .put tag name appId remark value _, .revision (.ok _) => some ⟨tag, name, appId, remark, value⟩
  | _, _ => none

/-- The version a read's answer hands out to an application's node: its item's. -/
def handedOut (appId : Int) (node name : String) :
    Except Error (ConfigItem × Revision) → Option Observation
  | .ok (item, _) => some ⟨appId, node, name, item.version⟩
  | .error _ => none

/-- The version a watch hands out to an application's node: the item it answered, if it
finished with one. -/
def watchHandedOut (appId : Int) (node name : String) : WatchState → Option Observation
  | .done (.config r) => handedOut appId node name r
  | _ => none

/-- The version a call handed out to an application's node: that of the item a read or a watch
answered. -/
def ConfigCall.handed : ConfigCall → ConfigReply → Option Observation
  | .get appId node name, .item r => handedOut appId node name r
  | .watch appId node name .., .watch s => watchHandedOut appId node name s
  | .look appId node name .., .watch s => watchHandedOut appId node name s
  | _, _ => none

/-- The writes of the puts of a run that answered a revision, in call order. -/
def landedWrites (calls : List ConfigCall) (replies : List ConfigReply) : List ConfigChange :=
  (calls.zip replies).filterMap fun cr => cr.1.landed cr.2

/-- The versions the calls of a run handed out, in call order. -/
def handedOuts (calls : List ConfigCall) (replies : List ConfigReply) : List Observation :=
  (calls.zip replies).filterMap fun cr => cr.1.handed cr.2

/-! ## What one call may do -/

/-- A change that keeps the keyspace, the ledger, and every configuration entry. -/
structure Quiet (p q : Plane) : Prop where
  keyspace : q.keyspace = p.keyspace
  store : Store.KeepsConfigs p.keyspace (fun _ => True) p.store q.store
  index : q.index = p.index

theorem Quiet.refl {p : Plane} (hc : p.store.Consistent) : Quiet p p :=
  ⟨rfl, .refl hc _, rfl⟩

theorem Quiet.trans {p q r : Plane} (h₁ : Quiet p q) (h₂ : Quiet q r) : Quiet p r :=
  ⟨h₂.keyspace.trans h₁.keyspace, h₁.store.trans (h₁.keyspace ▸ h₂.store), h₂.index.trans h₁.index⟩

theorem Quiet.of_store {p : Plane} {s : Store}
    (h : Store.KeepsConfigs p.keyspace (fun _ => True) p.store s) : Quiet p { p with store := s } :=
  ⟨rfl, h, rfl⟩

/-- What a read of a configuration leaves, as the mirror sees it: the keyspace and every
configuration entry are kept, and the ledger is the one it started from, but for the note of the
version it handed out when it answered an item. -/
structure ReadMoves (p : Plane) (appId : Int) (node name : String)
    (o : Except Error (ConfigItem × Revision) × Plane) : Prop where
  keyspace : o.2.keyspace = p.keyspace
  store : Store.KeepsConfigs p.keyspace (fun _ => True) p.store o.2.store
  index : match o.1 with
    | .ok (item, _) => p.index.recordObserved appId node name item.version = .ok o.2.index
    | .error _ => o.2.index = p.index

namespace ReadMoves

variable {p q : Plane} {appId : Int} {node name : String}

theorem of_quiet {e : Error} (h : Quiet p q) : ReadMoves p appId node name (.error e, q) :=
  ⟨h.keyspace, h.store, h.index⟩

theorem after {o : Except Error (ConfigItem × Revision) × Plane} (hq : Quiet p q)
    (h : ReadMoves q appId node name o) : ReadMoves p appId node name o :=
  ⟨h.keyspace.trans hq.keyspace, hq.store.trans (hq.keyspace ▸ h.store), hq.index ▸ h.index⟩

theorem recorded {o : Except Error (ConfigItem × Revision) × Plane} (m : Metrics)
    (h : ReadMoves p appId node name o) :
    ReadMoves p appId node name (o.1, { o.2 with metrics := m }) :=
  ⟨h.keyspace, h.store, h.index⟩

end ReadMoves

/-- The plane `p'` follows `p` with the ledger in step: the ledger mirrors the store and the
keyspace is kept; the history grew by exactly the writes `landed`, in order; and each tracked
application node observes the last version `handed` handed out to it, or what it observed
before. -/
structure Mirrored (p : Plane) (landed : List ConfigChange) (handed : List Observation)
    (p' : Plane) : Prop where
  mirror : LedgerMirror p'
  keyspace : p'.keyspace = p.keyspace
  history : p'.index.history.map HistoryEntry.change =
    p.index.history.map HistoryEntry.change ++ landed
  observed : ∀ appId node name, 0 < appId →
    p'.index.observedVersion appId node name =
      (p.index.observedVersion appId node name).map ((lastSeen handed appId node name).or ·)

namespace Mirrored

variable {p q p' : Plane}

theorem quiet (hm : LedgerMirror p) (h : Quiet p p') : Mirrored p [] [] p' where
  mirror := hm.keep h.keyspace h.store (by rw [h.index]) (by rw [h.index])
  keyspace := h.keyspace
  history := by simp [h.index]
  observed appId node name _ := by
    rw [h.index]
    cases p.index.observedVersion appId node name <;> rfl

theorem read {appId : Int} {node name : String} {o : Except Error (ConfigItem × Revision) × Plane}
    (hm : LedgerMirror p) (h : ReadMoves p appId node name o) :
    Mirrored p [] (handedOut appId node name o.1).toList o.2 := by
  have moves := h.index
  rcases o with ⟨_ | ⟨item, rev⟩, p'⟩
  · exact quiet hm ⟨h.keyspace, h.store, moves⟩
  · -- the ledger noted the version handed out, and nothing else
    obtain ⟨closed, rows, history⟩ := Index.recordObserved_configs moves
    have history : p'.index.history = p.index.history := history
    refine ⟨hm.keep h.keyspace h.store closed rows, h.keyspace, by simp [history], ?_⟩
    intro a n m tracked
    exact Index.recordObserved_observedVersion (o := ⟨appId, node, name, item.version⟩) moves
      tracked n m

/-- A write recorded by the ledger, of the value its key now holds under no lease. -/
theorem wrote {c : ConfigChange} (hm : LedgerMirror p) (hk : p'.keyspace = p.keyspace)
    (hs : Store.KeepsConfigs p.keyspace (· ≠ c.name) p.store p'.store)
    (written : ∃ e, p'.store.find? (p.keyspace.configKey c.name) = some e ∧ e.value = c.value ∧
      e.lease = 0)
    (hix : p.index.recordPut c = .ok p'.index) : Mirrored p [c] [] p' where
  mirror := hm.write hk hs written hix
  keyspace := hk
  history := Index.recordPut_history hix
  observed appId node name _ := by
    have opened := hm.opened
    rw [Index.observedVersion_open (Index.recordPut_ok hix).2,
      Index.observedVersion_open opened, (Index.recordPut_fields hix).2.1]
    rfl

/-- A deletion marked by the ledger, of a key now gone. -/
theorem erased {name : String} (hm : LedgerMirror p) (hk : p'.keyspace = p.keyspace)
    (hs : Store.KeepsConfigs p.keyspace (· ≠ name) p.store p'.store)
    (gone : p'.store.find? (p.keyspace.configKey name) = none)
    (hix : p.index.markDeleted name = .ok p'.index) : Mirrored p [] [] p' where
  mirror := hm.erase hk hs gone hix
  keyspace := hk
  history := by simp [(Index.markDeleted_fields hix).2.2.1]
  observed appId node name _ := by
    obtain ⟨closed, observations, -⟩ := Index.markDeleted_fields hix
    have opened := hm.opened
    rw [Index.observedVersion_open (closed.trans opened), Index.observedVersion_open opened,
      observations]
    rfl

theorem after {landed : List ConfigChange} {handed : List Observation} (hq : Quiet p q)
    (h : Mirrored q landed handed p') : Mirrored p landed handed p' :=
  ⟨h.mirror, h.keyspace.trans hq.keyspace, hq.index ▸ h.history, hq.index ▸ h.observed⟩

theorem recorded {landed : List ConfigChange} {handed : List Observation} (m : Metrics)
    (h : Mirrored p landed handed p') : Mirrored p landed handed { p' with metrics := m } :=
  ⟨⟨h.mirror.1, h.mirror.2, h.mirror.3, h.mirror.4, h.mirror.5⟩, h.keyspace, h.history,
    h.observed⟩

/-- Steps in a row: the writes of both, in order, and the versions of the later step over those
of the earlier. -/
theorem trans {l₁ l₂ : List ConfigChange} {h₁ h₂ : List Observation}
    (first : Mirrored p l₁ h₁ q) (second : Mirrored q l₂ h₂ p') :
    Mirrored p (l₁ ++ l₂) (h₁ ++ h₂) p' where
  mirror := second.mirror
  keyspace := second.keyspace.trans first.keyspace
  history := by rw [second.history, first.history, List.append_assoc]
  observed appId node name tracked := by
    rw [second.observed appId node name tracked, first.observed appId node name tracked,
      lastSeen_append]
    cases p.index.observedVersion appId node name <;> simp [Except.map, Option.or_assoc]

end Mirrored

/-! ## Reads and watches -/

section

variable {p : Plane} {appId : Int} {node name : String}

theorem readConfig_moves (hc : p.store.Consistent) (hd : Store.ConfigsDetached p.keyspace p.store) :
    ReadMoves p appId node name ((readConfig appId node name).exec p) := by
  cases hname : checkName name with
  | error e =>
    unfold readConfig
    rw [exec_check_bind_of_error hname]
    exact .of_quiet (.refl hc)
  | ok u =>
    rw [exec_readConfig hname]
    have kept := Store.sweep_keepsConfigs hc hd p.clock
    unfold readOutcome
    dsimp only
    cases (p.store.expire p.clock).find? (p.keyspace.configKey name) with
    | none => exact ⟨rfl, kept, rfl⟩
    | some kv =>
      dsimp only
      cases hr : p.index.recordObserved appId node name kv.modRevision with
      | ok ix => exact ⟨rfl, kept, hr⟩
      | error e => exact ⟨rfl, kept, rfl⟩

theorem configAnswer_moves (hc : p.store.Consistent) (hd : Store.ConfigsDetached p.keyspace p.store)
    (r : Except StoreError (List WatchEvent)) :
    ReadMoves p appId node name ((configAnswer appId node name r).exec p) := by
  unfold configAnswer
  cases r with
  | error e =>
    dsimp only
    split
    · exact readConfig_moves hc hd
    · rw [exec_throw]
      exact .of_quiet (.refl hc)
  | ok events =>
    cases events with
    | nil =>
      dsimp only
      rw [exec_throw]
      exact .of_quiet (.refl hc)
    | cons ev rest =>
      dsimp only
      split
      · rw [exec_bind, exec_onIndexWrite]
        dsimp only [ConfigItem.ofEntry]
        cases hr : p.index.recordObserved appId node name ev.kv.modRevision with
        | ok ix => exact ⟨rfl, .refl hc _, hr⟩
        | error e => exact .of_quiet (.refl hc)
      · rw [exec_throw]
        exact .of_quiet (.refl hc)

/-- As the mirror sees it, a watch's outcome is a read's: it leaves what a read answering `r`
leaves and hands out what that read hands out. -/
def WatchReads (p : Plane) (appId : Int) (node name : String) (o : WatchState × Plane) : Prop :=
  ∃ r, ReadMoves p appId node name (r, o.2) ∧ watchHandedOut appId node name o.1 = handedOut appId node name r

theorem WatchReads.of_quiet {o : WatchState × Plane} (h : Quiet p o.2)
    (still : watchHandedOut appId node name o.1 = none) : WatchReads p appId node name o :=
  ⟨.error ⟨.canceled, name⟩, .of_quiet h, still⟩

theorem WatchReads.after {q : Plane} {o : WatchState × Plane} (hq : Quiet p q)
    (h : WatchReads q appId node name o) : WatchReads p appId node name o := by
  obtain ⟨r, moves, handed⟩ := h
  exact ⟨r, moves.after hq, handed⟩

/-- A configuration watch's answer to what its receive gave reads as `configAnswer` does. -/
theorem answer_reads (hc : p.store.Consistent) (hd : Store.ConfigsDetached p.keyspace p.store)
    (r : Except StoreError (List WatchEvent)) :
    WatchReads p appId node name
      ((WatchState.done <$> (WatchKind.config appId node name).answer r).run p) := by
  have moves : ReadMoves p appId node name
      ((recorded .configWatch (configAnswer appId node name r)).exec p) := by
    rw [exec_recorded]
    exact (configAnswer_moves hc hd r).recorded _
  exact ⟨_, moves, rfl⟩

theorem Plane.run_get_bind {α : Type} (f : Plane → StateM Plane α) (p : Plane) :
    (get >>= f).run p = (f p).run p := rfl

theorem Plane.run_set_bind {α : Type} (q : Plane) (x : PUnit → StateM Plane α) (p : Plane) :
    (set q >>= x).run p = (x ⟨⟩).run q := rfl

/-- One look at a configuration watch reads as the mirror's read does: polling its subscription
and closing it are quiet, and what it answers is a refusal or what `configAnswer` answers. -/
theorem Waiter.step_reads (hc : p.store.Consistent) (hd : Store.ConfigsDetached p.keyspace p.store)
    (sub : Subscription) (deadline : Nat) (cancelled : Bool) :
    WatchReads p appId node name
      ((Waiter.step ⟨.config appId node name, sub, deadline, cancelled⟩).run p) := by
  unfold Waiter.step
  rw [Plane.run_get_bind]
  have polled := Store.poll_keepsConfigs hc hd sub
  rcases hpoll : p.store.poll sub with ⟨poll, sub', store⟩
  rw [hpoll] at polled
  dsimp only
  rw [Plane.run_set_bind]
  -- closing the subscription after the poll is quiet too
  have closed : Quiet p { p with store := store.unwatch sub' } :=
    .of_store (polled.trans (Store.unwatch_keepsConfigs polled.consistent (polled.detached hd) sub'))
  have answered (r : Except StoreError (List WatchEvent)) : WatchReads p appId node name
      ((do closeWatch sub'; WatchState.done <$> (WatchKind.config appId node name).answer r :
        StateM Plane WatchState).run { p with store }) :=
    (answer_reads closed.store.consistent (closed.store.detached hd) r).after closed
  cases poll with
  | ready r => exact answered r
  | waiting =>
    dsimp only
    split
    · exact .of_quiet ⟨closed.keyspace, closed.store, closed.index⟩ rfl
    · split
      · exact answered _
      · exact .of_quiet (.of_store polled) rfl

/-- Opening a configuration watch and taking a first look at it reads as the mirror's read
does. -/
theorem startWatch_reads (hc : p.store.Consistent) (hd : Store.ConfigsDetached p.keyspace p.store)
    (start : Revision) (timeoutMs : Nat) (cancelled : Bool) :
    WatchReads p appId node name
      ((startWatch (.config appId node name) start timeoutMs cancelled).run p) := by
  unfold startWatch
  rw [Plane.run_get_bind]
  cases (WatchKind.config appId node name).filter p.keyspace with
  | error e => exact .of_quiet ⟨rfl, .refl hc _, rfl⟩ rfl
  | ok filter =>
    have watched : Store.KeepsConfigs p.keyspace (fun _ => True) p.store
        (p.store.watch p.clock filter start).2 := Store.watch_keepsConfigs hc hd filter start
    dsimp only
    rw [Plane.run_set_bind]
    have opened := Quiet.of_store watched
    exact (Waiter.step_reads opened.store.consistent (watched.detached hd) _ _ cancelled).after
      opened

/-! ## One call -/

theorem getConfig_mirrored (hm : LedgerMirror p) :
    Mirrored p [] (handedOut appId node name ((getConfig appId node name).exec p).1).toList
      ((getConfig appId node name).exec p).2 := by
  unfold getConfig
  rw [exec_recorded]
  exact (Mirrored.read hm (readConfig_moves hm.consistent hm.detached)).recorded _

/-- A put that answered a revision wrote its value to both halves, and its write is the one the
history gains; a refused put leaves both as they were. -/
theorem putConfig_mirrored (hm : LedgerMirror p) (tag remark value : String) (version : Int) :
    Mirrored p ((ConfigCall.put tag name appId remark value version).landed
        (.revision ((putConfig tag name appId remark value version).exec p).1)).toList []
      ((putConfig tag name appId remark value version).exec p).2 := by
  have hc := hm.consistent
  cases hname : checkName name with
  | error e =>
    unfold putConfig
    rw [exec_recorded, exec_check_bind_of_error hname]
    exact (Mirrored.quiet hm (.refl hc)).recorded _
  | ok u =>
    let c : ConfigChange := ⟨tag, name, appId, remark, value⟩
    obtain ⟨ix, noted, -⟩ := Index.recordPut_open hm.opened c
    -- a write that landed on the store is recorded by the open ledger
    have landed (rev : Revision) (s : Store) (hs : Store.KeepsConfigs p.keyspace (· ≠ name) p.store s)
        (written : ∃ e, s.find? (p.keyspace.configKey name) = some e ∧ e.value = value ∧
          e.lease = 0) :
        recordedWrite p c rev s = (.ok rev, { p with store := s, index := ix }) ∧
          Mirrored p [c] [] { p with store := s, index := ix } := by
      unfold recordedWrite
      rw [noted]
      exact ⟨rfl, Mirrored.wrote hm rfl hs written noted⟩
    by_cases hv : version < 0
    · -- an unconditional put lands
      obtain ⟨-, -, e, he, hv', -, hl⟩ :=
        Store.put_detached p.clock (p.keyspace.configKey name) value hc
      obtain ⟨answered, mirrored⟩ := landed _ _
        (Store.put_keepsConfigs hc hm.detached name value .detach) ⟨e, he, hv', hl⟩
      rw [exec_putConfig_force hname hv, forceOutcome_eq hc, answered]
      exact mirrored.recorded _
    · have hv : 0 ≤ version := not_lt.1 hv
      rw [exec_putConfig_cas hname hv]
      by_cases hrev : (p.store.expire p.clock).modRevisionOf (p.keyspace.configKey name) = version
      · -- the compare-and-put lands
        obtain ⟨-, -, e, he, hv', -, hl⟩ := Store.txn_cas_landed value hc hrev
        obtain ⟨answered, mirrored⟩ := landed _ _
          (Store.txn_configCas_keepsConfigs hc hm.detached name value version) ⟨e, he, hv', hl⟩
        rw [casOutcome_landed (c := c) hc hrev, answered]
        exact mirrored.recorded _
      · -- the compare-and-put is refused: the key keeps its entry, which the sweep kept
        obtain ⟨-, -, same⟩ := Store.txn_cas_refused value hc hrev
        have swept : (p.store.expire p.clock).find? (p.keyspace.configKey name) =
            p.store.find? (p.keyspace.configKey name) :=
          (Store.Prunes.expire hc p.clock).find?_of_unleased (hm.detached name)
        have kept := (Store.txn_configCas_keepsConfigs hc hm.detached name value version).of_other
          (same.trans swept)
        rw [casOutcome_refused (c := c) hc hrev]
        exact (Mirrored.quiet hm (.of_store kept)).recorded _

/-- A listing reads the store alone. -/
theorem rangeConfigs_quiet (hc : p.store.Consistent) (hd : Store.ConfigsDetached p.keyspace p.store)
    (lower upper : String) (sort : Option (SortTarget × SortOrder)) :
    Quiet p ((rangeConfigs lower upper sort).exec p).2 := by
  have keeps : Triple (Quiet p) (rangeConfigs lower upper sort) (fun _ => Quiet p) (Quiet p) := by
    unfold rangeConfigs
    refine .recorded ?_ (fun _ _ _ h => ⟨h.keyspace, h.store, h.index⟩)
      (fun _ _ h => ⟨h.keyspace, h.store, h.index⟩)
    refine .check_bind (fun _ => ?_) (fun _ h => h)
    refine .check_bind (fun _ => ?_) (fun _ h => h)
    refine .get_bind fun p₀ => ?_
    refine .bind (fun _ => Quiet p) (.onStore fun q hq => outcome_of_snd
      (P := fun s => Quiet p { q with store := s }) ?_)
      fun _ => .pure fun _ h => h
    refine ⟨hq.1.keyspace, hq.1.store.trans ?_, hq.1.index⟩
    rw [Store.read_eq]
    exact Store.sweep_keepsConfigs hq.1.store.consistent (hq.1.store.detached hd) q.clock
  exact keeps.snd (.refl hc)

/-- A deletion, once its name is valid, erases the configuration from both halves, whatever the
store answers. -/
theorem deleteConfig_mirrored (hm : LedgerMirror p) (name : String) :
    Mirrored p [] [] ((deleteConfig name).exec p).2 := by
  have hc := hm.consistent
  cases hname : checkName name with
  | error e =>
    unfold deleteConfig
    rw [exec_recorded, exec_check_bind_of_error hname]
    exact (Mirrored.quiet hm (.refl hc)).recorded _
  | ok u =>
    obtain ⟨ix, marked⟩ := Index.markDeleted_open hm.opened name
    -- the ledger marks the deletion, and the key goes whatever the store answers
    have left : (deleteOutcome p name).2 =
        { p with index := ix, store := (p.store.delete p.clock (p.keyspace.configKey name)).2 } := by
      unfold deleteOutcome
      rw [marked]
      dsimp only
      split <;> rfl
    rw [exec_deleteConfig hname, left]
    have erased : Mirrored p [] []
        { p with index := ix, store := (p.store.delete p.clock (p.keyspace.configKey name)).2 } :=
      Mirrored.erased hm rfl (Store.delete_keepsConfigs hc hm.detached name)
        (Store.delete_gone hc _ _) marked
    exact erased.recorded _

theorem WatchReads.mirrored {o : WatchState × Plane} (hm : LedgerMirror p)
    (h : WatchReads p appId node name o) :
    Mirrored p [] (watchHandedOut appId node name o.1).toList o.2 := by
  obtain ⟨r, moves, handed⟩ := h
  rw [handed]
  exact Mirrored.read hm moves

end

/-- Every call keeps the ledger mirroring the store, appends to the history the write of a put
that landed, and notes the version a read or a watch handed out. -/
theorem ConfigCall.mirrorStep {p : Plane} (hm : LedgerMirror p) (c : ConfigCall)
    (spares : c.SparesConfigs p.keyspace) :
    Mirrored p (c.landed (c.run p).1).toList (c.handed (c.run p).1).toList (c.run p).2 := by
  have hc := hm.consistent
  cases c with
  | get appId node name => exact getConfig_mirrored hm
  | put tag name appId remark value version => exact putConfig_mirrored hm tag remark value version
  | range lower upper sort => exact .quiet hm (rangeConfigs_quiet hc hm.detached lower upper sort)
  | delete name => exact deleteConfig_mirrored hm name
  | watch appId node name start timeoutMs cancelled =>
    exact (startWatch_reads hc hm.detached start timeoutMs cancelled).mirrored hm
  | look appId node name sub deadline cancelled =>
    exact (Waiter.step_reads hc hm.detached sub deadline cancelled).mirrored hm
  | other c =>
    -- another client's call writes no configuration key
    exact .quiet hm (.of_store (Store.Call.keepsConfigs hc hm.detached
      (fun t n v b _ => spares.1 t n v b) (fun t n _ => spares.2 t n)))
  | wait ms => exact .quiet hm ⟨rfl, .refl hc _, rfl⟩

/-! ## Runs -/

theorem landedWrites_cons (c : ConfigCall) (r : ConfigReply) (calls : List ConfigCall)
    (replies : List ConfigReply) :
    landedWrites (c :: calls) (r :: replies) = (c.landed r).toList ++ landedWrites calls replies := by
  unfold landedWrites
  rw [List.zip_cons_cons, List.filterMap_cons]
  cases c.landed r <;> rfl

theorem handedOuts_cons (c : ConfigCall) (r : ConfigReply) (calls : List ConfigCall)
    (replies : List ConfigReply) :
    handedOuts (c :: calls) (r :: replies) = (c.handed r).toList ++ handedOuts calls replies := by
  unfold handedOuts
  rw [List.zip_cons_cons, List.filterMap_cons]
  cases c.handed r <;> rfl

/-- Over any run of configuration calls, with no other client writing a configuration key, the
ledger keeps mirroring the store: the history grows by exactly the puts that answered a
revision, in call order, and each tracked application node observes the version last handed
out to it. -/
theorem config_ledger_mirrors_store {p : Plane} (hm : LedgerMirror p) (calls : List ConfigCall)
    (spares : ∀ c ∈ calls, c.SparesConfigs p.keyspace) :
    Mirrored p (landedWrites calls (runCalls calls p).1) (handedOuts calls (runCalls calls p).1)
      (runCalls calls p).2 := by
  -- induction on the calls, from any mirrored plane: the first call's step, then the rest
  induction calls generalizing p with
  | nil => exact .quiet hm (.refl hm.consistent)
  | cons c calls ih =>
    have first := c.mirrorStep hm (spares c (List.mem_cons_self ..))
    have rest := ih first.mirror fun c' hc' =>
      first.keyspace ▸ spares c' (List.mem_cons_of_mem c hc')
    unfold runCalls
    rw [landedWrites_cons, handedOuts_cons]
    exact first.trans rest

theorem put_then_get_mirrored :
    let calls := [ConfigCall.put "ops" "feature.flags" 7 "" "on" 0, .get 7 "node-a" "feature.flags"]
    let p : Plane := { store := Store.make 0 0 }
    Mirrored p (landedWrites calls (runCalls calls p).1) (handedOuts calls (runCalls calls p).1)
      (runCalls calls p).2 :=
  config_ledger_mirrors_store (LedgerMirror.start _ 0 0) _ fun c hc => by
    rcases List.mem_pair.1 hc with rfl | rfl <;> trivial

end ControlPlane
