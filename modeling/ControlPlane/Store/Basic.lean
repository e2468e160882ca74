/-!
# The coordination store: keys, revisions, leases and requests

A coordination store maps keys to values under a global revision counter. Every write that
changes something moves the revision up by one, and each entry remembers the revision that
created it, the revision of its last change, how often it was written since creation, and
the lease that holds it. A lease is a time limit: when it ends, every key it holds goes.

This module holds the vocabulary shared by the store and its callers: entries as read, the
ways a write binds a lease, conditions and conditional writes, range requests, change events,
and the store's own failures.
-/

namespace ControlPlane

abbrev Revision := Int

abbrev LeaseId := Int

/-- An entry as a reader sees it. -/
structure KeyValue where
  key : String
  value : String
  /-- The revision that created the entry. -/
  createRevision : Revision
  /-- The revision of the entry's last write. -/
  modRevision : Revision
  /-- How many writes the entry has seen since its creation. -/
  version : Int
  /-- The lease holding the entry, or 0. -/
  lease : LeaseId
  deriving Inhabited, BEq

/-- What a put does with the entry's lease. -/
inductive LeaseBinding where
  /-- Keep the lease the entry has (none for a new entry). -/
  | keep
  /-- Put the entry under this lease, which must exist. -/
  | attach (id : LeaseId)
  /-- Hold the entry under no lease. -/
  | detach
  deriving Inhabited, BEq

/-- The binding for a lease number as callers give it: a positive number attaches, any other
detaches. -/
def LeaseBinding.ofLease (id : LeaseId) : LeaseBinding :=
  if id > 0 then .attach id else .detach

/-- One write of a transaction. -/
inductive WriteOp where
  | put (key value : String) (lease : LeaseBinding)
  | delete (key : String)
  deriving Inhabited

/-- A test on the current entry of a key. On a missing key the value tests fail, and the
modification revision and the lease read as 0. -/
inductive Condition where
  | valueEquals (key value : String)
  | valueNotEquals (key value : String)
  | modRevisionEquals (key : String) (revision : Revision)
  | present (key : String)
  | leaseEquals (key : String) (lease : LeaseId)
  deriving Inhabited

/-- A transaction: when every condition holds the first list of writes is applied, otherwise
the second. -/
structure ConditionalWrite where
  conditions : List Condition := []
  onSuccess : List WriteOp := []
  onFailure : List WriteOp := []
  deriving Inhabited

/-- What a range is ordered by. -/
inductive SortTarget where
  | key | version | createRevision | modRevision | value
  deriving Inhabited, BEq

/-- Which way a range is ordered. -/
inductive SortOrder where
  | ascend | descend
  deriving Inhabited, BEq

/-- A read of the keys in `[key, rangeEnd)`, or of `key` alone when there is no end. The end
`"\x00"` means every key from `key` on. -/
structure RangeRequest where
  key : String
  rangeEnd : Option String := none
  /-- At most this many entries; 0 means all. -/
  limit : Nat := 0
  sort : Option (SortTarget × SortOrder) := none
  /-- Entries come back with empty values. -/
  keysOnly : Bool := false
  deriving Inhabited

/-- The kind of a change. -/
inductive EventKind where
  | put | delete
  deriving Inhabited, BEq

/-- One change: a put carries the entry as written; a delete carries the key, an empty value,
the deleting revision and zeros elsewhere. -/
structure WatchEvent where
  kind : EventKind
  kv : KeyValue
  deriving Inhabited

/-- The changes committed by one revision. -/
structure Batch where
  revision : Revision
  events : List WatchEvent
  deriving Inhabited

/-- Why a store call failed. -/
inductive StoreStatus where
  | notFound | deadlineExceeded | canceled | compacted | unavailable | other
  deriving Inhabited, BEq

/-- The name of a failure kind. -/
def StoreStatus.name : StoreStatus → String
  | .notFound => "not-found"
  | .deadlineExceeded => "deadline-exceeded"
  | .canceled => "canceled"
  | .compacted => "compacted"
  | .unavailable => "unavailable"
  | .other => "other"

def StoreStatus.all : List StoreStatus :=
  [.notFound, .deadlineExceeded, .canceled, .compacted, .unavailable, .other]

def StoreStatus.ofName? (s : String) : Option StoreStatus := StoreStatus.all.find? (·.name == s)

/-- A failed store call. -/
structure StoreError where
  status : StoreStatus
  detail : String
  deriving Inhabited

namespace StoreError

def display (e : StoreError) : String := "store " ++ e.status.name ++ ": " ++ e.detail

def isTransient (e : StoreError) : Bool :=
  e.status == .unavailable || e.status == .deadlineExceeded

def leaseNotFound (id : LeaseId) : StoreError :=
  ⟨.notFound, "requested lease not found: " ++ toString id⟩

end StoreError

end ControlPlane
