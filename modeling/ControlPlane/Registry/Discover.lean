import ControlPlane.Plane.Basic

/-!
# Discovering services

A consumer reads a service, or one zone of it, as a snapshot: the zones that have endpoints,
in zone order, each with its descriptor and its endpoints in key order. The snapshot is
assembled from one prefix read of the store:

* keys that do not decode, or belong to another service, are skipped;
* a descriptor key gives its zone's descriptor, and must read as one;
* an endpoint key gives an endpoint of its zone, with the address rewritten for the client;
* a zone without endpoints is left out, and a zone without a descriptor gets the bare one.

A read that finds no key at all means the service does not exist.
-/

namespace ControlPlane

/-- One zone of a snapshot: its descriptor and its endpoints. -/
structure ZoneView where
  descriptor : Descriptor
  endpoints : List Endpoint
  deriving Inhabited

/-- What a consumer sees of a service. -/
structure ServiceSnapshot where
  service : String
  /-- The zones with endpoints, ascending by name. -/
  zones : List (String × ZoneView)
  deriving Inhabited

/-- The zones a service has keys in. -/
structure ServiceZones where
  service : String
  zones : List String
  deriving Inhabited

namespace ServiceSnapshot

def addresses (s : ServiceSnapshot) : List String :=
  s.zones.flatMap fun z => z.2.endpoints.map (·.address)

end ServiceSnapshot

/-- Adds an endpoint to its zone, keeping zones ascending and endpoints in arrival order. -/
def addEndpoint (zone : String) (e : Endpoint) :
    List (String × List Endpoint) → List (String × List Endpoint)
  | [] => [(zone, [e])]
  | (z, es) :: rest =>
    if z == zone then (z, es ++ [e]) :: rest
    else if zone < z then (zone, [e]) :: (z, es) :: rest
    else (z, es) :: addEndpoint zone e rest

/-- Inserts a text into an ascending list of texts, once. -/
def insertZone (zone : String) : List String → List String
  | [] => [zone]
  | z :: rest =>
    if z == zone then z :: rest
    else if zone < z then zone :: z :: rest
    else z :: insertZone zone rest

/-- The start of the keys of a service, or of one zone of it, once both are checked. -/
def scanStart (ks : KeySpace) (service : String) (zone : Option String) : Except Error String := do
  checkService service
  match zone with
  | some z =>
    checkZone z
    pure (ks.zoneScanStart service z)
  | none => pure (ks.serviceScanStart service)

/-- What the keys of a read say about a service: its endpoints by zone and its descriptors. -/
structure Gathered where
  zones : List (String × List Endpoint) := []
  descriptors : List (String × Descriptor) := []

/-- Takes one entry of a read into account. -/
def Gathered.add (ks : KeySpace) (resolver : Resolver) (service : String)
    (client : Option IpAddr) (g : Gathered) (kv : KeyValue) : Except Error Gathered :=
  match ks.decode kv.key with
  | none => pure g
  | some k =>
    if k.service != service then pure g
    else
      match k.suffix with
      | .descriptor =>
        match Descriptor.read? kv.value with
        | some d => pure { g with descriptors := (k.zone, d) :: g.descriptors }
        | none => throw ⟨.systemError, "damaged service descriptor"⟩
      | .node _ => do
        let e ← resolver.resolve kv.key kv.value client
        pure { g with zones := addEndpoint k.zone e g.zones }

/-- Assembles the snapshot of a service from the entries of its read. -/
def assembleSnapshot (ks : KeySpace) (resolver : Resolver) (service : String)
    (client : Option IpAddr) (kvs : List KeyValue) : Except Error ServiceSnapshot := do
  let g ← kvs.foldlM (Gathered.add ks resolver service client) {}
  let view (z : String) (es : List Endpoint) : ZoneView :=
    { descriptor := ((g.descriptors.find? (·.1 == z)).map (·.2)).getD { service, zone := z },
      endpoints := es }
  pure { service, zones := g.zones.map fun (z, es) => (z, view z es) }

/-- The snapshot of a service, or of one zone, with the revision it was read at. -/
def snapshot (service : String) (zone : Option String) (client : Option IpAddr) :
    Action (ServiceSnapshot × Revision) := do
  let p ← get
  let start ← MonadExcept.ofExcept (scanStart p.keyspace service zone)
  let r ← onStore (fun s now => s.read now (RangeRequest.startingWith start)) "query fail"
  if r.kvs.isEmpty then throw ⟨.notFound, "no such service: " ++ service⟩
  let snap ← MonadExcept.ofExcept (assembleSnapshot p.keyspace p.resolver service client r.kvs)
  pure (snap, r.revision)

/-- Reads a service for a consumer; counted as a query. -/
def query (service : String) (zone : Option String) (client : Option IpAddr) :
    Action (ServiceSnapshot × Revision) :=
  recorded .query (snapshot service zone client)

/-- The zones a service has any key in, ascending; counted as a query. -/
def queryZones (service : String) : Action (ServiceZones × Revision) :=
  recorded .query do
    let p ← get
    let start ← MonadExcept.ofExcept (scanStart p.keyspace service none)
    let r ← onStore (fun s now => s.read now { RangeRequest.startingWith start with keysOnly := true })
      "query fail"
    if r.kvs.isEmpty then throw ⟨.notFound, "no such service: " ++ service⟩
    let zones := r.kvs.foldl (fun acc kv =>
      match p.keyspace.decode kv.key with
      | some k => if k.service == service then insertZone k.zone acc else acc
      | none => acc) []
    pure (⟨service, zones⟩, r.revision)

/-- Searches the index for services whose name contains a text; counted as a search. -/
def searchServices (text : String) (skip limit : Int) : Action SearchPage :=
  recorded .search (onIndexRead (·.search text skip limit))

end ControlPlane
