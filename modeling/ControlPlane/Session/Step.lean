import ControlPlane.Plane.Watch

/-!
# Session steps

A session drives one control plane through a list of steps. Each step is one call: of the
registry, of the configurations, of the raw store, of the index, of the reconciler, of the
counters, or of the session's own scheduling (waiting for a spawned watch, cancelling it, or
moving the clock).
-/

namespace ControlPlane

/-- One step of a session. -/
inductive Step where
  | plug (desc : Descriptor) (endpoint : Endpoint) (ttl : Int) (lease : LeaseId)
  | plugAll (descs : List Descriptor) (endpoint : Endpoint) (ttl : Int) (lease : LeaseId)
  | unplug (service zone address : String)
  | update (service zone address : String) (endpoint : Endpoint)
  | keepAlive (lease : LeaseId)
  | grant (ttl : Int)
  | revoke (lease : LeaseId)
  | deleteService (service : String) (zone : Option String)
  | query (service : String) (zone : Option String) (client : Option IpAddr)
  | queryZones (service : String)
  | watch (service : String) (zone : Option String) (revision : Revision) (timeoutMs : Nat)
      (client : Option IpAddr) (cancelled : Bool)
  | watchSpawn (id service : String) (zone : Option String) (revision : Revision)
      (timeoutMs : Nat) (client : Option IpAddr)
  | search (text : String) (skip limit : Int)
  | configGet (appId : Int) (node name : String)
  | configPut (tag name : String) (appId : Int) (remark value : String) (version : Int)
  | configWatch (appId : Int) (node name : String) (revision : Revision) (timeoutMs : Nat)
      (cancelled : Bool)
  | configWatchSpawn (id name : String) (revision : Revision) (timeoutMs : Nat)
  | configRange (lower upper : String) (sort : Option (SortTarget × SortOrder))
  | configDelete (name : String)
  | configList (tag namePrefix : String) (skip limit : Int)
  | configHistory (name : String)
  | observedVersion (appId : Int) (node name : String)
  | await (id : String)
  | cancel (id : String)
  | advance (secs : Nat)
  | storeGet (key : String)
  | storeRange (request : RangeRequest)
  | storePut (key value : String) (binding : LeaseBinding)
  | storeDelete (key : String)
  | storeTxn (write : ConditionalWrite)
  | storeGrant (ttl : Int)
  | storeRevoke (lease : LeaseId)
  | storeKeepAlive (lease : LeaseId)
  | storeCompact (revision : Revision)
  | storeWatch (filter : KeyFilter) (start : Revision) (timeoutMs : Nat) (cancelFirst : Bool)
  | storeWatchSpawn (id : String) (filter : KeyFilter) (start : Revision) (timeoutMs : Nat)
  | storeWatchInfo (filter : KeyFilter) (start : Revision) (probe : String)
  | storeStats
  | storeSpawnReaper
  | storeShutdown
  | indexUpsertPending (descs : List Descriptor) (hash : Bool)
  | indexUpsertVerified (desc : Descriptor) (hash : Bool)
  | indexMarkVerified (descs : List Descriptor) (hash : Bool)
  | indexSoftDelete (service : String) (zone : Option String)
  | indexFind (service zone : String)
  | indexPageAfter (after limit : Int)
  | indexClose
  | reconcile (mode : String)
  | reconcileEnvelope (mode : String)
  | reconcilePeriodic (periodSecs : Int)
  | metrics
  | prometheus
  | queryAddresses (service : String) (zone : Option String) (client : Option IpAddr)
  | registryKeys (service zone address name : String)
  deriving Inhabited

end ControlPlane
