import ControlPlane.Store.PrefixEnd

/-!
# The keyspace

Services and configurations live in two parts of the store, each under its own prefix. A
service's keys sit under `<services>/<service>/<zone>/`: the descriptor of the zone at
`desc`, and each endpoint at `node_<address>`. A configuration sits at `<configs>/<name>`.

Prefixes are kept without trailing slashes, so `/services/` and `/services` name the same
part. Reading a key back is the inverse of writing it: the service and zone are non-empty
and hold no slash, and an address is non-empty and holds no slash.
-/

namespace ControlPlane

def defaultZone : String := "default"

/-- What a key of a service zone holds. -/
inductive KeySuffix where
  /-- The zone's descriptor. -/
  | descriptor
  /-- The endpoint at an address. -/
  | node (address : String)
  deriving Inhabited, BEq, DecidableEq

/-- A key of the service part, read back. -/
structure ServiceKey where
  service : String
  zone : String
  suffix : KeySuffix
  deriving Inhabited, BEq, DecidableEq

namespace ServiceKey

/-- The last path segment of the key. -/
def leaf (k : ServiceKey) : String :=
  match k.suffix with
  | .descriptor => "desc"
  | .node address => "node_" ++ address

def display (k : ServiceKey) : String := k.service ++ "/" ++ k.zone ++ "/" ++ k.leaf

/-- The name and the version of the service, split at its first colon; the version is empty
when there is no colon. -/
def nameAndVersion (k : ServiceKey) : String × String :=
  let cs := k.service.toList
  match cs.dropWhile (· ≠ ':') with
  | _ :: version => (String.ofList (cs.takeWhile (· ≠ ':')), String.ofList version)
  | [] => (k.service, "")

def isDescriptor (k : ServiceKey) : Bool := k.suffix == .descriptor

end ServiceKey

def trimTrailingSlashes (s : String) : String :=
  String.ofList (s.toList.reverse.dropWhile (· = '/')).reverse

def stripStart? (s p : String) : Option String :=
  if p.toList.isPrefixOf s.toList then some (String.ofList (s.toList.drop p.length)) else none

/-- The two prefixes of the store's parts. -/
structure KeySpace where
  servicePart : String
  configPart : String
  deriving Inhabited

namespace KeySpace

/-- The keyspace of two prefixes, their trailing slashes dropped. -/
def make (services configs : String) : KeySpace :=
  ⟨trimTrailingSlashes services, trimTrailingSlashes configs⟩

def standard : KeySpace := make "/services" "/configs"

def encode (ks : KeySpace) (k : ServiceKey) : String := ks.servicePart ++ "/" ++ k.display

/-- The path segments of `s` split at the first two slashes. -/
def splitThree (s : String) : List String :=
  let cs := s.toList
  let first := cs.takeWhile (· ≠ '/')
  match cs.dropWhile (· ≠ '/') with
  | [] => [String.ofList first]
  | _ :: rest =>
    let second := rest.takeWhile (· ≠ '/')
    match rest.dropWhile (· ≠ '/') with
    | [] => [String.ofList first, String.ofList second]
    | _ :: third => [String.ofList first, String.ofList second, String.ofList third]

/-- The service key of a raw key, if it is one. -/
def decode (ks : KeySpace) (raw : String) : Option ServiceKey := do
  let rest ← stripStart? raw ks.servicePart
  let rest ← stripStart? rest "/"
  match splitThree rest with
  | [service, zone, leaf] =>
    if service.isEmpty || zone.isEmpty then none
    else if leaf = "desc" then some ⟨service, zone, .descriptor⟩
    else do
      let address ← stripStart? leaf "node_"
      if address.isEmpty || address.toList.contains '/' then none
      else some ⟨service, zone, .node address⟩
  | _ => none

def descriptorKey (ks : KeySpace) (service zone : String) : String :=
  ks.encode ⟨service, zone, .descriptor⟩

def nodeKey (ks : KeySpace) (service zone address : String) : String :=
  ks.encode ⟨service, zone, .node address⟩

def allServicesStart (ks : KeySpace) : String := ks.servicePart ++ "/"

def serviceScanStart (ks : KeySpace) (service : String) : String :=
  ks.servicePart ++ "/" ++ service ++ "/"

def zoneScanStart (ks : KeySpace) (service zone : String) : String :=
  ks.servicePart ++ "/" ++ service ++ "/" ++ zone ++ "/"

def nodeScanStart (ks : KeySpace) (service zone : String) : String :=
  ks.servicePart ++ "/" ++ service ++ "/" ++ zone ++ "/node_"

def configKey (ks : KeySpace) (name : String) : String := ks.configPart ++ "/" ++ name

/-- The name of a configuration key, if it is one. -/
def configName (ks : KeySpace) (raw : String) : Option String := do
  let rest ← stripStart? raw ks.configPart
  stripStart? rest "/"

def configRangeEnd (ks : KeySpace) : String := prefixEnd (ks.configPart ++ "/")

end KeySpace

end ControlPlane
