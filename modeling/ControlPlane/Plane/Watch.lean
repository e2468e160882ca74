import ControlPlane.Registry.Discover
import ControlPlane.Configs.Basic

/-!
# Waiting watches

A watch of the control plane opens a store subscription and then waits for a receive to give
something. Waiting is a state of its own: a `Waiter` holds the subscription, the moment its
time is up, and whether its caller gave up. Each look at a waiter (`Waiter.step`) either
finishes it or leaves it waiting; when to look again is the caller's business.

What a finished watch answers depends on its kind:

* a service watch answers a fresh snapshot, also after a compacted receive; a service that
  vanished is reported deleted;
* a configuration watch answers the first change: a put gives the item at its revision, a
  delete reports the configuration deleted, and a compacted receive falls back to a read;
* a raw watch answers the events, or the store's failure, as they are.

Service and configuration watches are counted when they finish, however they finish.
-/

namespace ControlPlane

/-- What a watch observes and answers. -/
inductive WatchKind where
  | service (service : String) (zone : Option String) (client : Option IpAddr)
  | config (appId : Int) (node : String) (name : String)
  | raw (filter : KeyFilter)
  deriving Inhabited

/-- What a finished watch answers. -/
inductive WatchOutcome where
  | service (result : Except Error (ServiceSnapshot × Revision))
  | config (result : Except Error (ConfigItem × Revision))
  | events (result : Except StoreError (List WatchEvent))
  deriving Inhabited

/-- A watch waiting for changes. -/
structure Waiter where
  kind : WatchKind
  sub : Subscription
  /-- When the watch's time is up, in milliseconds. -/
  deadline : Nat
  /-- Whether the caller gave up waiting. -/
  cancelled : Bool := false
  deriving Inhabited

/-- A watch that waits, or what it answered. -/
inductive WatchState where
  | waiting (w : Waiter)
  | done (o : WatchOutcome)
  deriving Inhabited

/-- The answer of a service watch to what its receive gave. -/
def serviceAnswer (service : String) (zone : Option String) (client : Option IpAddr)
    (r : Except StoreError (List WatchEvent)) : Action (ServiceSnapshot × Revision) := do
  match r with
  | .ok _ => pure ()
  | .error e => if e.status == .compacted then pure () else throw (Error.ofStore e "watch fail")
  tryCatch (snapshot service zone client) fun e =>
    if e.kind == .notFound then throw ⟨.deleted, "service " ++ service ++ " deleted"⟩ else throw e

/-- The answer of a configuration watch to what its receive gave. -/
def configAnswer (appId : Int) (node name : String) (r : Except StoreError (List WatchEvent)) :
    Action (ConfigItem × Revision) :=
  match r with
  | .error e =>
    if e.status == .compacted then readConfig appId node name
    else throw (Error.ofStore e "watch config fail")
  | .ok events =>
    match events with
    | [] => throw ⟨.systemError, "unexpected event"⟩
    | e :: _ =>
      if e.kind == .put then do
        let item := ConfigItem.ofEntry name e.kv
        onIndexWrite (·.recordObserved appId node name item.version)
        pure (item, e.kv.modRevision)
      else throw ⟨.deleted, name⟩

/-- Runs the kind's answer, counting it. -/
def WatchKind.answer (kind : WatchKind) (r : Except StoreError (List WatchEvent)) :
    StateM Plane WatchOutcome :=
  match kind with
  | .service s z c => WatchOutcome.service <$> (recorded .watch (serviceAnswer s z c r)).run
  | .config a n name => WatchOutcome.config <$> (recorded .configWatch (configAnswer a n name r)).run
  | .raw _ => pure (.events r)

/-- The answer of a watch that failed before it subscribed, counted. -/
def WatchKind.refuse (kind : WatchKind) (e : Error) : StateM Plane WatchOutcome :=
  match kind with
  | .service .. => WatchOutcome.service <$> (recorded .watch (throw e)).run
  | .config .. => WatchOutcome.config <$> (recorded .configWatch (throw e)).run
  | .raw _ => pure (.events (.error ⟨.other, e.message⟩))

/-- The answer of a watch whose caller gave up, counted. -/
def WatchKind.giveUp (kind : WatchKind) : StateM Plane WatchOutcome :=
  match kind with
  | .raw _ => pure (.events (.error ⟨.canceled, "watch canceled"⟩))
  | _ => kind.refuse ⟨.canceled, "watch canceled"⟩

/-- The keys a watch observes, once its names are checked. -/
def WatchKind.filter (ks : KeySpace) : WatchKind → Except Error KeyFilter
  | .service s z _ => (scanStart ks s z).map .startingWith
  | .config _ _ name => (checkName name).map fun _ => .exact (ks.configKey name)
  | .raw f => pure f

def closeWatch (sub : Subscription) : StateM Plane Unit :=
  modify fun p => { p with store := p.store.unwatch sub }

namespace Waiter

/-- Looks at a waiting watch now: what the receive gives, else the caller giving up, else the
end of its time; otherwise it keeps waiting. -/
def step (w : Waiter) : StateM Plane WatchState := do
  let p ← get
  let (poll, sub, store) := p.store.poll w.sub
  set { p with store }
  match poll with
  | .ready r =>
    closeWatch sub
    WatchState.done <$> w.kind.answer r
  | .waiting =>
    if w.cancelled then
      closeWatch sub
      WatchState.done <$> w.kind.giveUp
    else if w.deadline ≤ p.clock then
      closeWatch sub
      WatchState.done <$> w.kind.answer (.error ⟨.deadlineExceeded, "watch timed out"⟩)
    else pure (.waiting { w with sub })

end Waiter

/-- Opens a watch now and takes a first look at it. A raw watch that is cancelled at once has
its subscription cancelled; the other kinds have their caller give up. -/
def startWatch (kind : WatchKind) (start : Revision) (timeoutMs : Nat) (cancelled : Bool) :
    StateM Plane WatchState := do
  let p ← get
  match kind.filter p.keyspace with
  | .error e => WatchState.done <$> kind.refuse e
  | .ok filter =>
    let (sub, store) := p.store.watch p.clock filter start
    set { p with store }
    let w : Waiter := match kind with
      | .raw _ => { kind, sub := { sub with cancelled }, deadline := p.clock + timeoutMs }
      | _ => { kind, sub, deadline := p.clock + timeoutMs, cancelled }
    w.step

/-- Opens a raw watch now without looking at it yet. -/
def subscribeRaw (filter : KeyFilter) (start : Revision) (timeoutMs : Nat) : StateM Plane Waiter := do
  let p ← get
  let (sub, store) := p.store.watch p.clock filter start
  set { p with store }
  pure { kind := .raw filter, sub, deadline := p.clock + timeoutMs }

end ControlPlane
