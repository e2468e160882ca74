import ControlPlane.Store.Hub
import ControlPlane.Store.PrefixEnd

/-!
# The in-memory coordination store

The store keeps its entries ordered by key, its leases ordered by number, and the batches of
its recent revisions. Every call first sweeps the leases whose time is up at the call's
moment on the logical clock (in milliseconds), then does its own work, and last sends what
was committed to the open receivers.

* A write call applies its writes at the next revision; a call that changes no key commits
  nothing and leaves the revision alone. A put that attaches a missing lease fails before
  anything changes.
* A dropped lease deletes the keys it holds in one revision, in key order.
* The history keeps at most `historyLimit` batches; the oldest go first, and
  `firstRetained` is the first revision a watch may still start at.
-/

namespace ControlPlane

/-- A lease as the store holds it. -/
structure LeaseRecord where
  id : LeaseId
  ttl : Int
  /-- When the lease ends on the logical clock, in milliseconds; `none` if it never ends. -/
  deadline : Option Nat
  /-- The keys the lease holds, ascending. -/
  keys : List String := []
  deriving Inhabited

/-- A granted lease as its caller sees it. -/
structure LeaseGrant where
  id : LeaseId
  ttl : Int
  deriving Inhabited

/-- The entries a range read found. -/
structure RangeResult where
  kvs : List KeyValue
  /-- Whether the limit cut entries off. -/
  more : Bool
  revision : Revision
  deriving Inhabited

/-- The in-memory coordination store. -/
structure Store where
  /-- The entries, ascending by key. -/
  entries : List KeyValue := []
  /-- The leases, ascending by number. -/
  leases : List LeaseRecord := []
  revision : Revision := 1
  nextLease : LeaseId := 1
  /-- The batches of recent revisions, oldest first. -/
  history : List Batch := []
  firstRetained : Revision := 1
  /-- How many batches the history keeps; at least 1. -/
  historyLimit : Nat := 4096
  /-- Batches committed by the running call and not yet sent. -/
  pending : List Batch := []
  hub : Hub := {}
  deriving Inhabited

/-- The reading of the monotonic clock at time 0 of the logical clock, in seconds. Lease
deadlines must stay within that clock's range of `2 ^ 63 - 1` seconds. -/
def clockOrigin : Nat := 1000000

/-- When a lease with a time to live ends, counted from `now`; a time to live of 0 or less
never ends, and one past the clock's range is refused. -/
def leaseDeadline (now : Nat) (ttl : Int) : Except StoreError (Option Nat) :=
  if ttl ≤ 0 then pure none
  else if ((clockOrigin + now / 1000 : Nat) : Int) + ttl > ((Nat.pow 2 63 : Nat) : Int) - 1 then
    throw ⟨.other, "lease ttl out of range: " ++ toString ttl⟩
  else pure (some (now + ttl.toNat * 1000))

/-- Inserts an entry into a list ordered by key, replacing the entry of the same key. -/
def insertEntry (kv : KeyValue) : List KeyValue → List KeyValue
  | [] => [kv]
  | e :: es =>
    if e.key == kv.key then kv :: es
    else if kv.key < e.key then kv :: e :: es
    else e :: insertEntry kv es

/-- Inserts a key into an ascending list of keys, once. -/
def insertKey (k : String) : List String → List String
  | [] => [k]
  | x :: xs =>
    if x == k then x :: xs
    else if k < x then k :: x :: xs
    else x :: insertKey k xs

/-- The entry a delete leaves in its event: the key, the deleting revision, zeros elsewhere. -/
def tombstone (key : String) (revision : Revision) : KeyValue :=
  { key, value := "", createRevision := 0, modRevision := revision, version := 0, lease := 0 }

def RangeRequest.startingWith (start : String) : RangeRequest :=
  { key := start, rangeEnd := some (prefixEnd start) }

/-- The comparison of two entries by a sort target. -/
def SortTarget.compare (t : SortTarget) (a b : KeyValue) : Ordering :=
  match t with
  | .key => Ord.compare a.key b.key
  | .version => Ord.compare a.version b.version
  | .createRevision => Ord.compare a.createRevision b.createRevision
  | .modRevision => Ord.compare a.modRevision b.modRevision
  | .value => Ord.compare a.value b.value

/-- Whether `a` may stand before `b` in a range sorted by target and order. -/
def inSortOrder (t : SortTarget) (o : SortOrder) (a b : KeyValue) : Bool :=
  match o with
  | .ascend => t.compare a b != .gt
  | .descend => t.compare b a != .gt

namespace Store

/-- An empty store with its limits: the history keeps at least one batch, and the hub's
capacity is rounded up to a power of two. -/
def make (historyLimit channelCapacity : Nat) : Store :=
  { historyLimit := max historyLimit 1, hub := Hub.make channelCapacity }

def find? (s : Store) (key : String) : Option KeyValue := s.entries.find? (·.key == key)

/-- Whether a condition holds: value tests fail on a missing key, whose modification revision
and lease read as 0. -/
def holds (s : Store) : Condition → Bool
  | .valueEquals k v => match s.find? k with
    | some e => e.value == v
    | none => false
  | .valueNotEquals k v => match s.find? k with
    | some e => e.value != v
    | none => false
  | .modRevisionEquals k r => ((s.find? k).map (·.modRevision)).getD 0 == r
  | .present k => (s.find? k).isSome
  | .leaseEquals k l => ((s.find? k).map (·.lease)).getD 0 == l

def hasLease (s : Store) (id : LeaseId) : Bool := s.leases.any (·.id == id)

def mapLease (s : Store) (id : LeaseId) (f : LeaseRecord → LeaseRecord) : Store :=
  { s with leases := s.leases.map fun l => if l.id == id then f l else l }

/-- Writes one entry at a revision: the lease binding decides the entry's lease, the key
moves between the leases' key sets, and creation revision and version carry on from the
previous entry. -/
def putEntry (s : Store) (rev : Revision) (key value : String) (binding : LeaseBinding) :
    Store × WatchEvent :=
  let previous := s.find? key
  let oldLease := (previous.map (·.lease)).getD 0
  let lease := match binding with
    | .keep => oldLease
    | .attach id => id
    | .detach => 0
  let s := if oldLease != lease then s.mapLease oldLease fun l => { l with keys := l.keys.erase key }
    else s
  let s := s.mapLease lease fun l => { l with keys := insertKey key l.keys }
  let kv : KeyValue := {
    key, value,
    createRevision := (previous.map (·.createRevision)).getD rev,
    modRevision := rev,
    version := (previous.map (·.version + 1)).getD 1,
    lease }
  ({ s with entries := insertEntry kv s.entries }, ⟨.put, kv⟩)

/-- Deletes one entry at a revision; a missing key gives no event. -/
def deleteEntry (s : Store) (rev : Revision) (key : String) : Store × Option WatchEvent :=
  match s.find? key with
  | none => (s, none)
  | some e =>
    let s := s.mapLease e.lease fun l => { l with keys := l.keys.erase key }
    ({ s with entries := s.entries.filter (·.key != key) }, some ⟨.delete, tombstone key rev⟩)

/-- Commits the events of a revision: the revision moves, the batch joins the history (which
drops its oldest batches past the limit) and waits to be sent. No events, no commit. -/
def commit (s : Store) (rev : Revision) (events : List WatchEvent) : Store :=
  if events.isEmpty then s
  else
    let b : Batch := ⟨rev, events⟩
    let history := s.history ++ [b]
    let excess := history.length - s.historyLimit
    let firstRetained := match (history.take excess).getLast? with
      | some d => d.revision + 1
      | none => s.firstRetained
    { s with revision := rev, history := history.drop excess, firstRetained,
             pending := s.pending ++ [b] }

/-- The first lease a list of writes attaches that is not in the table. -/
def missingLease? (s : Store) (ops : List WriteOp) : Option LeaseId :=
  ops.findSome? fun op => match op with
    | .put _ _ (.attach id) => if s.hasLease id then none else some id
    | _ => none

/-- Applies a list of writes at the next revision, in order. -/
def applyWrites (s : Store) (ops : List WriteOp) : Except StoreError Store :=
  match s.missingLease? ops with
  | some id => throw (StoreError.leaseNotFound id)
  | none =>
    let rev := s.revision + 1
    let step (acc : Store × List WatchEvent) (op : WriteOp) : Store × List WatchEvent :=
      match op with
      | .put k v b => let (s, e) := acc.1.putEntry rev k v b; (s, acc.2 ++ [e])
      | .delete k => let (s, e) := acc.1.deleteEntry rev k; (s, acc.2 ++ e.toList)
    let (s, events) := ops.foldl step (s, [])
    pure (s.commit rev events)

/-- Removes a lease and deletes its keys in one revision. -/
def dropLease (s : Store) (id : LeaseId) : Store :=
  match s.leases.find? (·.id == id) with
  | none => s
  | some l =>
    let s := { s with leases := s.leases.filter (·.id != id) }
    let rev := s.revision + 1
    let step (acc : Store × List WatchEvent) (k : String) : Store × List WatchEvent :=
      let (s, e) := acc.1.deleteEntry rev k
      (s, acc.2 ++ e.toList)
    let (s, events) := l.keys.foldl step (s, [])
    s.commit rev events

/-- Whether a lease's time is up at `now`. -/
def LeaseRecord.isDue (now : Nat) (l : LeaseRecord) : Bool :=
  match l.deadline with
  | some d => d ≤ now
  | none => false

/-- Drops every lease whose time is up, in lease-number order. -/
def expire (s : Store) (now : Nat) : Store :=
  let due := ((s.leases.filter (LeaseRecord.isDue now)).map (·.id)).mergeSort (· ≤ ·)
  due.foldl dropLease s

/-- The entries of a range request. An end of `"\x00"` reads to the last key, an end at or
before the start reads nothing; the sort is stable, the limit cuts after sorting, and a
keys-only read blanks the values. -/
def range (s : Store) (r : RangeRequest) : RangeResult :=
  let kvs := match r.rangeEnd with
    | none => (s.find? r.key).toList
    | some e =>
      if e == "\x00" then s.entries.filter fun kv => r.key ≤ kv.key
      else if e ≤ r.key then []
      else s.entries.filter fun kv => r.key ≤ kv.key && kv.key < e
  let kvs := match r.sort with
    | none => kvs
    | some (t, o) => kvs.mergeSort (inSortOrder t o)
  let more := r.limit > 0 && kvs.length > r.limit
  let kvs := if more then kvs.take r.limit else kvs
  let kvs := if r.keysOnly then kvs.map ({ · with value := "" }) else kvs
  { kvs, more, revision := s.revision }

def publish (s : Store) : Store :=
  { s with hub := s.pending.foldl Hub.send s.hub, pending := [] }

/-- One store call at `now`: the sweep, then the call's work, then the sending of what was
committed. A failing call keeps what the sweep did. -/
def call {α : Type} (s : Store) (now : Nat) (work : Store → Except StoreError (α × Store)) :
    Except StoreError α × Store :=
  let s := s.expire now
  match work s with
  | .ok (a, s') => (.ok a, s'.publish)
  | .error e => (.error e, s.publish)

/-! ## Calls -/

/-- Reads one key, with the store revision. -/
def get (s : Store) (now : Nat) (key : String) :
    Except StoreError (Option KeyValue × Revision) × Store :=
  s.call now fun s => pure ((s.find? key, s.revision), s)

def read (s : Store) (now : Nat) (r : RangeRequest) : Except StoreError RangeResult × Store :=
  s.call now fun s => pure (s.range r, s)

/-- Writes one key; answers the store revision afterwards. -/
def put (s : Store) (now : Nat) (key value : String) (binding : LeaseBinding) :
    Except StoreError Revision × Store :=
  s.call now fun s => do
    let s ← s.applyWrites [.put key value binding]
    pure (s.revision, s)

/-- Deletes one key; answers how many keys went (0 or 1) and the store revision. -/
def delete (s : Store) (now : Nat) (key : String) : Except StoreError (Nat × Revision) × Store :=
  s.call now fun s => do
    let existed := (s.find? key).isSome
    let s ← s.applyWrites [.delete key]
    pure ((if existed then 1 else 0, s.revision), s)

/-- A conditional write: every condition is tested against one state, then one branch is
applied. Answers whether the conditions held and the store revision. -/
def txn (s : Store) (now : Nat) (w : ConditionalWrite) : Except StoreError (Bool × Revision) × Store :=
  s.call now fun s => do
    let ok := w.conditions.all s.holds
    let s ← s.applyWrites (if ok then w.onSuccess else w.onFailure)
    pure ((ok, s.revision), s)

/-- Grants a lease under the next number. -/
def grant (s : Store) (now : Nat) (ttl : Int) : Except StoreError LeaseGrant × Store :=
  s.call now fun s => do
    let deadline ← leaseDeadline now ttl
    let id := s.nextLease
    pure (⟨id, ttl⟩, { s with nextLease := id + 1, leases := s.leases ++ [{ id, ttl, deadline }] })

/-- Revokes a lease, deleting its keys. -/
def revoke (s : Store) (now : Nat) (id : LeaseId) : Except StoreError Unit × Store :=
  s.call now fun s =>
    if s.hasLease id then pure ((), s.dropLease id) else throw (StoreError.leaseNotFound id)

/-- Renews a lease from `now`; answers its time to live. -/
def keepAlive (s : Store) (now : Nat) (id : LeaseId) : Except StoreError Int × Store :=
  s.call now fun s =>
    match s.leases.find? (·.id == id) with
    | none => throw (StoreError.leaseNotFound id)
    | some l => do
      let deadline ← leaseDeadline now l.ttl
      pure (l.ttl, s.mapLease id fun l => { l with deadline })

def reap (s : Store) (now : Nat) : Store := (s.call now fun s => pure ((), s)).2

/-- Forgets the history before a revision; watches that start earlier fail as compacted. This
is not a call: it does not sweep. -/
def compact (s : Store) (rev : Revision) : Store :=
  { s with history := s.history.dropWhile (·.revision < rev),
           firstRetained := max s.firstRetained rev }

end Store

end ControlPlane
