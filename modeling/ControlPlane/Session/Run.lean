import ControlPlane.Session.Step
import ControlPlane.Session.Answer
import ControlPlane.Registry.Register
import ControlPlane.Api.Envelope

/-!
# Running a session

A session runs steps one after another against one control plane, on a logical clock that
moves only when a step says so or when a watch waits for its time to run out.

Besides the step in progress, a session has background work:

* spawned watches, which open their subscription once the step that spawned them is over and
  then wait; they finish when a matching change arrives, when they are cancelled, or when
  their time is up;
* a lease reaper, which sweeps expired leases at once when it starts and then once per
  period.

After every step the background work runs until nothing more happens. Moving the clock fires
what falls due on the way, earliest first: the reaper sweeps (once, however many of its
periods passed), and a watch whose time is up finishes, unless a change it was waiting for
has arrived. A watch that a step waits on lets the clock run to the next thing that falls
due, again and again, until it has an answer.
-/

namespace ControlPlane

/-- What a spawned watch is doing. -/
inductive TaskState where
  /-- Spawned; the watch opens when the spawning step is over. -/
  | spawned (kind : WatchKind) (start : Revision) (timeoutMs : Nat)
  | waiting (w : Waiter)
  | finished (o : WatchOutcome)
  deriving Inhabited

/-- A spawned watch under its name. -/
structure Task where
  id : String
  state : TaskState
  /-- Whether a later spawn took the name; the watch still runs, unnamed. -/
  detached : Bool := false
  deriving Inhabited

/-- The lease reaper: its period and its next sweep, in milliseconds. -/
structure Reaper where
  period : Nat
  nextTick : Nat
  deriving Inhabited

/-- What falls due when the clock moves. -/
inductive Timer where
  | reaper
  | task (id : String)
  deriving Inhabited

/-- A session in progress. -/
structure Session where
  plane : Plane
  tasks : List Task := []
  reaper : Option Reaper := none
  /-- The reaper's period, in milliseconds. -/
  reapPeriod : Nat := 1000
  /-- Whether the store was shut down; a reaper started afterwards stops at once. -/
  shutDown : Bool := false
  deriving Inhabited

def Reaper.after (r : Reaper) (now : Nat) : Reaper :=
  if now < r.nextTick then r
  else { r with nextTick := r.nextTick + r.period * ((now - r.nextTick) / max r.period 1 + 1) }

/-- Lets a spawned watch go on: one that was spawned opens; one that waits is looked at.
Reports whether it opened or finished. -/
def TaskState.resume : TaskState → StateM Plane (TaskState × Bool)
  | .spawned kind start timeoutMs => do
    match ← startWatch kind start timeoutMs false with
    | .waiting w => pure (.waiting w, true)
    | .done o => pure (.finished o, true)
  | .waiting w => do
    match ← w.step with
    | .waiting w => pure (.waiting w, false)
    | .done o => pure (.finished o, true)
  | .finished o => pure (.finished o, false)

/-- Lets every spawned watch go on once, in spawn order. -/
def resumeAll : List Task → StateM Plane (List Task × Bool)
  | [] => pure ([], false)
  | t :: ts => do
    let (state, moved) ← t.state.resume
    let (ts, more) ← resumeAll ts
    pure ({ t with state } :: ts, moved || more)

namespace Session

def onPlane {α : Type} (s : Session) (m : StateM Plane α) : α × Session :=
  let (a, plane) := m.run s.plane
  (a, { s with plane })

def act {α : Type} (s : Session) (a : Action α) (render : α → Json) : Json × Session :=
  let (r, s) := s.onPlane a.run
  (Answer.result render r, s)

def onStore {α : Type} (s : Session) (call : Store → Nat → Except StoreError α × Store)
    (render : α → Json) : Json × Session :=
  let (r, s) := s.onPlane (onStoreRaw call)
  (Answer.storeResult render r, s)

/-- The reaper sweeps now, if it is due. -/
def reapIfDue (s : Session) : Session :=
  match s.reaper with
  | some r =>
    if r.nextTick ≤ s.plane.clock then
      let plane := { s.plane with store := s.plane.store.reap s.plane.clock }
      { s with plane, reaper := some (r.after s.plane.clock) }
    else s
  | none => s

/-- Lets the background work run until nothing more happens. -/
def settle (s : Session) : Session :=
  go (2 * s.tasks.length + 2) s.reapIfDue
where
  /-- Rounds of letting every spawned watch go on. -/
  go : Nat → Session → Session
    | 0, s => s
    | n + 1, s =>
      let ((tasks, moved), s) := s.onPlane (resumeAll s.tasks)
      let s := { s with tasks }
      if moved then go n s else s

/-- Looks at one spawned watch. -/
def resumeTask (s : Session) (id : String) : Session :=
  let step (acc : List Task × Session) (t : Task) : List Task × Session :=
    if t.id == id && !t.detached then
      let ((state, _), s) := acc.2.onPlane t.state.resume
      (acc.1 ++ [{ t with state }], s)
    else (acc.1 ++ [t], acc.2)
  let (tasks, s) := s.tasks.foldl step ([], s)
  { s with tasks }

/-- What falls due up to a moment, earliest first; the reaper goes first among equals. -/
def dueTimers (s : Session) (upTo : Nat) : List (Nat × Timer) :=
  let reaper := match s.reaper with
    | some r => if r.nextTick ≤ upTo then [(r.nextTick, Timer.reaper)] else []
    | none => []
  let tasks := s.tasks.filterMap fun t =>
    match t.state with
    | .waiting w => if w.deadline ≤ upTo && !t.detached then some (w.deadline, Timer.task t.id)
      else none
    | _ => none
  (reaper ++ tasks).mergeSort fun a b => a.1 ≤ b.1

def fire (s : Session) : Timer → Session
  | .reaper => s.reapIfDue
  | .task id => s.resumeTask id

def moveTo (s : Session) (target : Nat) : Session :=
  let s := { s with plane := { s.plane with clock := max target s.plane.clock } }
  ((s.dueTimers s.plane.clock).foldl (fun s t => s.fire t.2) s).settle

/-- The next moment something falls due for a step waiting until `deadline`. -/
def nextDue (s : Session) (deadline : Nat) : Nat :=
  let reaper := match s.reaper with
    | some r => [r.nextTick]
    | none => []
  let tasks := s.tasks.filterMap fun t =>
    match t.state with
    | .waiting w => if t.detached then none else some w.deadline
    | _ => none
  (reaper ++ tasks).foldl min deadline

/-- Waits on a watch for the step in progress, letting the clock run. -/
def waitFor (s : Session) (w : Waiter) : WatchOutcome × Session :=
  let period := match s.reaper with
    | some r => max r.period 1
    | none => w.deadline + 1
  go ((w.deadline - s.plane.clock) / period + s.tasks.length + 3) s w
where
  /-- Looks at the watch, then moves the clock to the next moment something falls due. -/
  go : Nat → Session → Waiter → WatchOutcome × Session
    | 0, s, w =>
      let s := { s with plane := { s.plane with clock := max w.deadline s.plane.clock } }
      let (o, s) := s.onPlane do
        closeWatch w.sub
        w.kind.answer (.error ⟨.deadlineExceeded, "watch timed out"⟩)
      (o, s)
    | n + 1, s, w =>
      let (state, s) := s.onPlane w.step
      match state with
      | .done o => (o, s)
      | .waiting w => go n (s.moveTo (s.nextDue w.deadline)) w

/-- Opens a watch for the step in progress and waits for its answer. -/
def watchNow (s : Session) (kind : WatchKind) (start : Revision) (timeoutMs : Nat)
    (cancelled : Bool) : Json × Session :=
  let (state, s) := s.onPlane (startWatch kind start timeoutMs cancelled)
  match state with
  | .done o => (Answer.outcome o, s)
  | .waiting w =>
    let (o, s) := s.waitFor w
    (Answer.outcome o, s)

def spawn (s : Session) (id : String) (state : TaskState) : Json × Session :=
  let tasks := s.tasks.map fun t => if t.id == id then { t with detached := true } else t
  (.obj [("spawned", .str id)], { s with tasks := tasks ++ [{ id, state }] })

def task? (s : Session) (id : String) : Option Task :=
  s.tasks.find? fun t => t.id == id && !t.detached

/-- Answers a finished spawned watch and forgets it, or says that it is still going. -/
def awaitTask (s : Session) (id : String) : Json × Session :=
  match s.task? id with
  | none => (Answer.badInput ("no task " ++ id), s)
  | some t =>
    match t.state with
    | .finished o =>
      (Answer.outcome o, { s with tasks := s.tasks.filter fun t => t.id != id || t.detached })
    | _ => (.obj [("pending", .bool true)], s)

/-- Cancels a spawned watch: a raw watch's subscription is cancelled, any other watch's
caller gives up. -/
def cancelTask (s : Session) (id : String) : Json × Session :=
  match s.task? id with
  | none => (Answer.badInput ("no task " ++ id), s)
  | some _ =>
    let cancel (t : Task) : Task :=
      if t.id == id && !t.detached then
        match t.state with
        | .waiting w =>
          match w.kind with
          | .raw _ => { t with state := .waiting { w with sub := { w.sub with cancelled := true } } }
          | _ => { t with state := .waiting { w with cancelled := true } }
        | _ => t
      else t
    (Answer.ok, { s with tasks := s.tasks.map cancel })

def hashedIf (hash : Bool) (d : Descriptor) : Descriptor := if hash then d.hashed else d

/-- Runs one step and answers it; the background work is not run yet. -/
def exec (s : Session) : Step → Json × Session
  | .plug d e ttl lease => s.act (plug d e ttl lease) Answer.grant
  | .plugAll ds e ttl lease => s.act (plugAll ds e ttl lease) Answer.grant
  | .unplug service zone address => s.act (unplug service zone address) fun _ => Answer.ok
  | .update service zone address e =>
    s.act (update service zone address e) fun r => .obj [("revision", .int r)]
  | .keepAlive lease => s.act (keepAlive lease) fun ttl => .obj [("ttl", .int ttl)]
  | .grant ttl => s.act (grantLease ttl) Answer.grant
  | .revoke lease => s.act (revokeLease lease) fun _ => Answer.ok
  | .deleteService service zone => s.act (deleteService service zone) fun _ => Answer.ok
  | .query service zone client => s.act (query service zone client) Answer.serviceResult
  | .queryZones service => s.act (queryZones service) Answer.zonesResult
  | .watch service zone revision timeoutMs client cancelled =>
    s.watchNow (.service service zone client) revision timeoutMs cancelled
  | .watchSpawn id service zone revision timeoutMs client =>
    s.spawn id (.spawned (.service service zone client) revision timeoutMs)
  | .search text skip limit => s.act (searchServices text skip limit) Answer.searchPage
  | .configGet appId node name => s.act (getConfig appId node name) Answer.configResult
  | .configPut tag name appId remark value version =>
    s.act (putConfig tag name appId remark value version) fun r => .obj [("revision", .int r)]
  | .configWatch appId node name revision timeoutMs cancelled =>
    s.watchNow (.config appId node name) revision timeoutMs cancelled
  | .configWatchSpawn id name revision timeoutMs =>
    s.spawn id (.spawned (.config 0 "" name) revision timeoutMs)
  | .configRange lower upper sort => s.act (rangeConfigs lower upper sort) Answer.configRange
  | .configDelete name => s.act (deleteConfig name) fun _ => Answer.ok
  | .configList tag namePrefix skip limit =>
    s.act (listConfigs tag namePrefix skip limit) Answer.configList
  | .configHistory name => s.act (configHistory name) Answer.history
  | .observedVersion appId node name =>
    s.act (onIndexRead (·.observedVersion appId node name)) fun v =>
      .obj [("version", Json.intOrNull v)]
  | .await id => s.awaitTask id
  | .cancel id => s.cancelTask id
  | .advance secs => (Answer.ok, s.moveTo (s.plane.clock + secs * 1000))
  | .storeGet key =>
    s.onStore (fun st now => st.get now key) fun (kv, rev) =>
      .obj [("kv", (kv.map Answer.keyValue).getD .null), ("revision", .int rev)]
  | .storeRange r =>
    s.onStore (fun st now => st.read now r) fun res =>
      .obj [("kvs", .arr (res.kvs.map Answer.keyValue)), ("more", .bool res.more),
            ("revision", .int res.revision)]
  | .storePut key value binding =>
    s.onStore (fun st now => st.put now key value binding) fun r => .obj [("revision", .int r)]
  | .storeDelete key =>
    s.onStore (fun st now => st.delete now key) fun (n, r) =>
      .obj [("deleted", .nat n), ("revision", .int r)]
  | .storeTxn w =>
    s.onStore (fun st now => st.txn now w) fun (ok, r) =>
      .obj [("succeeded", .bool ok), ("revision", .int r)]
  | .storeGrant ttl => s.onStore (fun st now => st.grant now ttl) Answer.grant
  | .storeRevoke lease => s.onStore (fun st now => st.revoke now lease) fun _ => Answer.ok
  | .storeKeepAlive lease =>
    s.onStore (fun st now => st.keepAlive now lease) fun ttl => .obj [("ttl", .int ttl)]
  | .storeCompact revision =>
    (Answer.ok, { s with plane := { s.plane with store := s.plane.store.compact revision } })
  | .storeWatch filter start timeoutMs cancelFirst =>
    s.watchNow (.raw filter) start timeoutMs cancelFirst
  | .storeWatchSpawn id filter start timeoutMs =>
    let (w, s) := s.onPlane (subscribeRaw filter start timeoutMs)
    s.spawn id (.waiting w)
  | .storeWatchInfo filter start probe =>
    let (sub, s) := s.onPlane do
      let w ← subscribeRaw filter start 0
      closeWatch w.sub
      pure w.sub
    (.obj [("debug", .str sub.describe), ("filter", .str filter.describe),
           ("matches", .bool (filter.covers probe))], s)
  | .storeStats =>
    let store := s.plane.store.reap s.plane.clock
    (.obj [("revision", .int store.revision), ("keys", .nat store.entries.length),
           ("leases", .nat store.leases.length), ("watchers", .nat store.hub.count)],
     { s with plane := { s.plane with store } })
  | .storeSpawnReaper =>
    if s.reaper.isSome then (Answer.badInput "reaper already running", s)
    else if s.shutDown then (Answer.ok, s)
    else (Answer.ok, { s with reaper := some ⟨s.reapPeriod, s.plane.clock⟩ })
  | .storeShutdown => (Answer.ok, { s with reaper := none, shutDown := true })
  | .indexUpsertPending ds hash =>
    s.act (onIndexWrite (·.upsert (ds.map (hashedIf hash)) false)) fun _ => Answer.ok
  | .indexUpsertVerified d hash =>
    s.act (onIndexWrite (·.upsert [hashedIf hash d] true)) fun _ => Answer.ok
  | .indexMarkVerified ds hash =>
    s.act (onIndexWrite (·.markVerified (ds.map (hashedIf hash)))) fun _ => Answer.ok
  | .indexSoftDelete service zone =>
    s.act (onIndex (·.softDelete service zone)) fun n => .obj [("rows", .nat n)]
  | .indexFind service zone =>
    s.act (onIndexRead (·.find service zone)) fun r =>
      .obj [("row", (r.map Answer.indexRow).getD .null)]
  | .indexPageAfter after limit =>
    s.act (onIndexRead (·.pageAfter after limit)) fun rows => .arr (rows.map Answer.indexRow)
  | .indexClose =>
    (Answer.ok, { s with plane := { s.plane with index := { s.plane.index with closed := true } } })
  | .reconcile mode =>
    match ReconcileMode.parse mode with
    | .error e => (Answer.error e, s)
    | .ok m => s.act (reconcile m) Answer.reportWithVerdict
  | .reconcileEnvelope mode =>
    let (r, s) : Except Error ReconcileReport × Session :=
      match ReconcileMode.parse mode with
      | .error e => (.error e, s)
      | .ok m => s.onPlane (reconcile m).run
    let (status, envelope) := Envelope.respond (r.map Answer.report)
    (.obj [("status", .nat status), ("envelope", envelope)], s)
  | .reconcilePeriodic periodSecs =>
    if periodSecs ≤ 0 then (Answer.badInput "period_secs must be > 0", s)
    else
      let (_, s) := s.onPlane (reconcile .print).run
      (.obj [("passes", .nat 1)], s)
  | .metrics => (s.plane.metrics.toJson, s)
  | .prometheus => (.obj [("text", .str s.plane.metrics.prometheus)], s)
  | .queryAddresses service zone client =>
    s.act (query service zone client) fun r =>
      .obj [("addresses", .arr (r.1.addresses.map .str))]
  | .registryKeys service zone address name =>
    let ks := s.plane.keyspace
    (.obj [("descriptor_key", .str (ks.descriptorKey service zone)),
           ("node_key", .str (ks.nodeKey service zone address)),
           ("config_key", .str (ks.configKey name))], s)

/-- Runs one step, or answers that it could not be read, then lets the background work run. -/
def perform (s : Session) (step : Except String Step) : Json × Session :=
  match step with
  | .error message => (Answer.badInput message, s)
  | .ok step =>
    let (answer, s) := s.exec step
    (answer, s.settle)

def performAll (s : Session) : List (Except String Step) → List Json
  | [] => []
  | step :: rest =>
    let (answer, s) := s.perform step
    answer :: performAll s rest

def make (settings : Settings) : Except Error Session := do
  let plane ← Plane.ofSettings settings
  pure { plane, reapPeriod := settings.reapIntervalSecs * 1000 }

end Session

/-- Runs a session: its settings from YAML text (the defaults without one), then its steps.
Settings that do not read answer for the whole session. -/
def runSession (config : Option String) (steps : List (Except String Step)) : Json :=
  let settings : Except Error Settings := match config with
    | some text => Settings.ofYaml text
    | none => pure {}
  match settings >>= Session.make with
  | .error e => Answer.error e
  | .ok s => .obj [("steps", .arr (s.performAll steps))]

/-- A file-backed index written and read back after reopening: every descriptor is hashed and
upserted verified in a call of its own, then the first thousand rows and the first hundred
search results are read. -/
def indexRoundTrip (descs : List Descriptor) (query : String) : Json :=
  let write (ix : Index) (d : Descriptor) : Index :=
    match ix.upsert [d.hashed] true with
    | .ok ix => ix
    | .error _ => ix
  let ix := descs.foldl write {}
  let rows := match ix.pageAfter 0 1000 with
    | .ok rows => .arr (rows.map Answer.indexRow)
    | .error e => Answer.error e
  .obj [("rows", rows), ("search", Answer.result Answer.searchPage (ix.search query 0 100))]

end ControlPlane
