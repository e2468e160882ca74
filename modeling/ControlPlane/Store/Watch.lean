import ControlPlane.Store.State
import ControlPlane.Text.Quoted

/-!
# Watch subscriptions

A watch observes the changes to one key, or to every key that starts with a given text, from a
start revision on. It opens a receiver on the hub and collects, as its backlog, the matching
events of the retained batches at or after the start. A start of 0 or less means the next
revision; a start before the first retained revision is compacted, and every receive on it
fails.

A receive answers, in this order: the compacted failure; the cancelled failure; the whole
backlog; otherwise the matching events of the next batch that has any, skipping batches
without one. A receiver that fell behind turns the subscription compacted. When nothing
matching has arrived the receive waits: `Subscription.poll` says so, and the caller decides
when to poll again.
-/

namespace ControlPlane

/-- Which keys a watch observes. -/
inductive KeyFilter where
  | exact (key : String)
  | startingWith (start : String)
  deriving Inhabited, BEq

namespace KeyFilter

/-- Whether a key is observed. -/
def covers (f : KeyFilter) (key : String) : Bool :=
  match f with
  | .exact k => k == key
  | .startingWith p => p.isPrefixOf key

/-- The filter as diagnostics show it. -/
def describe : KeyFilter → String
  | .exact k => "Exact(" ++ quoted k ++ ")"
  | .startingWith p => "Prefix(" ++ quoted p ++ ")"

end KeyFilter

/-- An open watch. -/
structure Subscription where
  filter : KeyFilter
  /-- The first revision whose changes are reported. -/
  startRevision : Revision
  /-- Matching events committed before the watch opened, in commit order. -/
  backlog : List WatchEvent := []
  /-- The hub receiver of the watch. -/
  receiver : Nat
  cancelled : Bool := false
  compacted : Bool := false
  deriving Inhabited

/-- What a receive gives now. -/
inductive Poll where
  | ready (result : Except StoreError (List WatchEvent))
  /-- Nothing matching has arrived yet. -/
  | waiting
  deriving Inhabited

namespace Subscription

/-- The subscription as diagnostics show it. -/
def describe (sub : Subscription) : String :=
  "WatchSubscription \x7b filter: " ++ sub.filter.describe ++ ", start_revision: "
    ++ toString sub.startRevision ++ ", backlog: " ++ toString sub.backlog.length
    ++ ", compacted: " ++ toString sub.compacted ++ " \x7d"

def select (sub : Subscription) (b : Batch) : List WatchEvent :=
  b.events.filter fun e => e.kv.modRevision ≥ sub.startRevision && sub.filter.covers e.kv.key

/-- Takes batches off the receiver until one has matching events. -/
def next (sub : Subscription) : Nat → Hub → Poll × Subscription × Hub
  | 0, hub => (.waiting, sub, hub)
  | fuel + 1, hub =>
    match hub.take sub.receiver with
    | (.empty, hub) => (.waiting, sub, hub)
    | (.lagged missed, hub) =>
      (.ready (.error ⟨.compacted, "watcher fell behind by " ++ toString missed ++ " batches"⟩),
        { sub with compacted := true }, hub)
    | (.batch b, hub) =>
      let events := sub.select b
      if events.isEmpty then next sub fuel hub else (.ready (.ok events), sub, hub)

/-- Receives what is there now, or says that the receive waits. -/
def poll (sub : Subscription) (hub : Hub) : Poll × Subscription × Hub :=
  if sub.compacted then
    (.ready (.error ⟨.compacted, "revision " ++ toString sub.startRevision ++ " has been compacted"⟩),
      sub, hub)
  else if sub.cancelled then (.ready (.error ⟨.canceled, "watch canceled"⟩), sub, hub)
  else if !sub.backlog.isEmpty then (.ready (.ok sub.backlog), { sub with backlog := [] }, hub)
  else sub.next ((hub.queued sub.receiver).length + 1) hub

end Subscription

namespace Store

/-- Opens a watch at `now`. The receiver opens before the backlog is read, so a change
committed by this call's own sweep is both in the backlog and on the receiver. -/
def watch (s : Store) (now : Nat) (filter : KeyFilter) (start : Revision) : Subscription × Store :=
  let s := s.expire now
  let (hub, receiver) := s.hub.subscribe
  let s := { s with hub }
  let sub : Subscription :=
    if start ≤ 0 then { filter, startRevision := s.revision + 1, receiver }
    else if start < s.firstRetained then { filter, startRevision := start, receiver, compacted := true }
    else
      let backlog := ((s.history.filter (·.revision ≥ start)).flatMap (·.events)).filter
        fun e => filter.covers e.kv.key
      { filter, startRevision := start, backlog, receiver }
  (sub, s.publish)

def unwatch (s : Store) (sub : Subscription) : Store := { s with hub := s.hub.close sub.receiver }

/-- Receives on a watch now, or says that it waits. -/
def poll (s : Store) (sub : Subscription) : Poll × Subscription × Store :=
  let (p, sub, hub) := sub.poll s.hub
  (p, sub, { s with hub })

end Store

end ControlPlane
