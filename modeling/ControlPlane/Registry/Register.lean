import ControlPlane.Plane.Basic
import ControlPlane.Registry.Lease

/-!
# Registering endpoints

A producer plugs an endpoint into one or more service zones. A plug

1. checks the address, that there is a descriptor, the time to live, and each descriptor
   (an empty zone is the default one, the kind is required), and hashes the descriptors;
2. picks the lease: a given lease is renewed, a positive time to live gets a fresh lease, and
   otherwise the endpoint is held by none;
3. creates each descriptor key if it is absent, or else requires the stored descriptor to hash
   the same;
4. writes the pending index rows, then each endpoint key unless it already holds this value
   under this lease, then marks the rows verified.

If a step after the lease fails, a fresh lease is revoked again. Repeating a plug changes
nothing in the store.

Unplug deletes one endpoint key and soft-deletes the zone's index row when it was the last
endpoint; update rewrites an existing endpoint key and never creates one; deleting a service
removes its descriptor keys in one revision once no endpoint is left under them.
-/

namespace ControlPlane

/-- How many times a conditional write that lost a race is tried. -/
def maxAttempts : Nat := 5

/-- The zone a caller meant: the default one for the empty text. -/
def zoneOrDefault (zone : String) : String := if zone.isEmpty then defaultZone else zone

/-! ## Leases -/

/-- Grants a lease for the registry: the time to live is checked, and the grant counted. -/
def grantLease (ttl : Int) : Action LeaseGrant := do
  check (Lease.checkTtl ttl)
  let g ← onStore (fun s now => s.grant now ttl) "create lease fail"
  count (·.leaseGranted)
  pure g

/-- Revokes a lease for the registry, counting it. -/
def revokeLease (id : LeaseId) : Action Unit := do
  onStore (fun s now => s.revoke now id) "revoke fail"
  count (·.leaseRevoked)

/-- Renews a lease once; answers its time to live. -/
def renewLease (id : LeaseId) : Action Int := onStore (fun s now => s.keepAlive now id) "keepalive fail"

/-- Revokes a lease on a failure path; its own failure is dropped. -/
def releaseLease (id : LeaseId) : Action Unit := tryCatch (revokeLease id) fun _ => pure ()

/-- Renews a lease for a producer; counted as a keep-alive. -/
def keepAlive (id : LeaseId) : Action Int := recorded .keepAlive (renewLease id)

/-! ## Plug -/

/-- A descriptor made ready for a plug: the default zone filled in, the service and zone
checked, the kind required, and the hash computed. -/
def prepareDescriptor (d : Descriptor) : Except Error Descriptor := do
  let d := { d with zone := zoneOrDefault d.zone }
  checkServiceZone d.service d.zone
  if d.kind.isEmpty then throw ⟨.invalidEndpoint, d.service ++ ":" ++ d.zone ++ " missing type"⟩
  pure d.hashed

/-- The creation of a descriptor key that is absent. -/
def descriptorCreate (key value : String) : ConditionalWrite :=
  { conditions := [.modRevisionEquals key 0], onSuccess := [.put key value .detach] }

/-- Creates a descriptor key if it is absent; otherwise the stored descriptor must hash to the
descriptor's content hash. -/
def ensureDescriptor (d : Descriptor) : Action Unit := go maxAttempts
where
  /-- One attempt, and the ones left after it. -/
  go : Nat → Action Unit
    | 0 => throw ⟨.tooManyAttempts, "ensure descriptor " ++ d.service ++ "/" ++ d.zone⟩
    | n + 1 => do
      let key := (← get).keyspace.descriptorKey d.service d.zone
      let (created, _) ← onStore (fun s now => s.txn now (descriptorCreate key d.text))
        "plug service fail"
      if created then return
      let (kv, _) ← onStore (fun s now => s.get now key) "plug service fail"
      match kv with
      | none => go n
      | some kv =>
        match Descriptor.read? kv.value with
        | none => throw ⟨.systemError, "damaged service descriptor"⟩
        | some stored =>
          if stored.computeHash == d.contentHash then pure ()
          else throw ⟨.changedServiceDesc,
            d.service ++ "/" ++ d.zone ++ " differs from the registered descriptor"⟩

/-- The write of an endpoint key unless it already holds this value under this lease. -/
def endpointWrite (key value : String) (lease : LeaseId) : ConditionalWrite :=
  { conditions := [.valueEquals key value, .leaseEquals key lease],
    onFailure := [.put key value (LeaseBinding.ofLease lease)] }

/-- Writes a registration: descriptors, pending rows, endpoint keys, verified rows. -/
def writeRegistration (descs : List Descriptor) (address value : String) (lease : LeaseId) :
    Action Unit := do
  descs.forM ensureDescriptor
  onIndexWrite (·.upsert descs false)
  let ks := (← get).keyspace
  descs.forM fun d => do
    let key := ks.nodeKey d.service d.zone address
    let _ ← onStore (fun s now => s.txn now (endpointWrite key value lease)) "plug service fail"
  onIndexWrite (·.markVerified descs)

/-- Registers one endpoint under several service zones, sharing one lease; counted as a
plug. -/
def plugAll (descs : List Descriptor) (endpoint : Endpoint) (ttl : Int) (lease : LeaseId) :
    Action LeaseGrant :=
  recorded .plug do
    check ((← get).policy.check endpoint.address)
    if descs.isEmpty then throw ⟨.missingParam, "desc"⟩
    check (Lease.checkTtl ttl)
    let descs ← MonadExcept.ofExcept (descs.mapM prepareDescriptor)
    let value := endpoint.text
    let (grant, fresh) ←
      if lease != 0 then do
        let remaining ← renewLease lease
        pure ((⟨lease, remaining⟩ : LeaseGrant), false)
      else if ttl > 0 then do
        let g ← grantLease ttl
        pure (g, true)
      else pure (⟨0, ttl⟩, false)
    tryCatch (do writeRegistration descs endpoint.address value grant.id; pure grant) fun e => do
      if fresh then releaseLease grant.id
      throw e

/-- Registers one endpoint of one service zone. -/
def plug (desc : Descriptor) (endpoint : Endpoint) (ttl : Int) (lease : LeaseId) :
    Action LeaseGrant :=
  plugAll [desc] endpoint ttl lease

/-! ## Unplug and update -/

/-- Removes one endpoint; an absent one is no error. The zone's index row is soft-deleted
when its last endpoint goes. Counted as an unplug. -/
def unplug (service zone address : String) : Action Unit :=
  recorded .unplug do
    let zone := zoneOrDefault zone
    check (checkServiceZone service zone)
    let p ← get
    check (p.policy.check address)
    let (deleted, _) ← onStore (fun s now => s.delete now (p.keyspace.nodeKey service zone address))
      "delete key fail"
    if deleted == 0 then return
    let rest := { RangeRequest.startingWith (p.keyspace.nodeScanStart service zone) with
                  limit := 1, keysOnly := true }
    let r ← onStore (fun s now => s.read now rest) "query fail"
    if r.kvs.isEmpty then
      let _ ← onIndex (·.softDelete service (some zone))

/-- The endpoint an update writes: one without an address takes the address given, and another
address is refused. -/
def updatedEndpoint (endpoint : Endpoint) (address : String) : Except Error Endpoint :=
  if endpoint.address.isEmpty then .ok { endpoint with address }
  else if endpoint.address != address then .error ⟨.invalidParam, "can't modify address"⟩
  else .ok endpoint

/-- The rewrite of an endpoint key that is present, keeping its lease. -/
def endpointUpdate (key value : String) : ConditionalWrite :=
  { conditions := [.present key], onSuccess := [.put key value .keep] }

/-- Rewrites an existing endpoint, keeping its lease; answers the revision. An endpoint without
an address takes the one given; another address is refused. Counted as an update. -/
def update (service zone address : String) (endpoint : Endpoint) : Action Revision :=
  recorded .update do
    let zone := zoneOrDefault zone
    check (checkServiceZone service zone)
    let p ← get
    check (p.policy.check address)
    let endpoint ← MonadExcept.ofExcept (updatedEndpoint endpoint address)
    let key := p.keyspace.nodeKey service zone address
    let (ok, rev) ← onStore (fun s now => s.txn now (endpointUpdate key endpoint.text))
      "update service fail"
    if !ok then throw ⟨.notFound, "no such endpoint: " ++ address⟩
    pure rev

/-! ## Deleting a service -/

/-- Adds the conditional delete of one descriptor key read at a revision, or refuses a key
that is not a descriptor key. -/
def descriptorDelete (ks : KeySpace) (w : ConditionalWrite) (kv : KeyValue) :
    Except Error ConditionalWrite :=
  match ks.decode kv.key with
  | some k =>
    if k.isDescriptor then
      pure { w with conditions := w.conditions ++ [.modRevisionEquals kv.key kv.modRevision],
                    onSuccess := w.onSuccess ++ [.delete kv.key] }
    else throw ⟨.invalidParam, "has endpoints plugged on"⟩
  | none => throw ⟨.invalidParam, "has endpoints plugged on"⟩

/-- The conditional delete of every descriptor key of a read, or the refusal when a key is not
a descriptor key. -/
def descriptorDeletes (ks : KeySpace) (kvs : List KeyValue) : Except Error ConditionalWrite :=
  kvs.foldlM (descriptorDelete ks) {}

/-- Deletes the descriptors of a service, or of one zone, once no endpoint is left under them,
and soft-deletes their index rows. Counted as a service deletion. -/
def deleteService (service : String) (zone : Option String) : Action Unit :=
  recorded .deleteService do
    check (checkService service)
    match zone with
    | some z => check (checkZone z)
    | none => pure ()
    let p ← get
    let start := match zone with
      | some z => p.keyspace.zoneScanStart service z
      | none => p.keyspace.serviceScanStart service
    attempt p.keyspace start maxAttempts
where
  /-- One attempt, and the ones left after it. -/
  attempt (ks : KeySpace) (start : String) : Nat → Action Unit
    | 0 => throw ⟨.tooManyAttempts, "delete service " ++ service⟩
    | n + 1 => do
      let r ← onStore (fun s now => s.read now (RangeRequest.startingWith start))
        "get service keys fail"
      let w ← MonadExcept.ofExcept (descriptorDeletes ks r.kvs)
      if w.onSuccess.isEmpty then
        let _ ← onIndex (·.softDelete service zone)
        return
      let (ok, _) ← onStore (fun s now => s.txn now w) "delete service keys fail"
      if ok then
        let _ ← onIndex (·.softDelete service zone)
        return
      attempt ks start n

end ControlPlane
