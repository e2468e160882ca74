import ControlPlane.Net.Address
import ControlPlane.Error
import ControlPlane.Service.Descriptor

/-!
# Address mappings

A client on one network may have to reach an endpoint through another address than the one
it registered. A mapping rule says: a client inside `src_net` sees endpoints (inside
`endpoint_net`, when given) at `dest_ip`, on the endpoint's own port.

1. `MappingRule` is a rule as written in the configuration, three texts;
2. `Mapping` is a rule read into networks and an address;
3. `Resolver` holds the mappings in order; the first that applies rewrites an address, and an
   address that is not `ip:port`, or a request without a client, passes unchanged.
-/

namespace ControlPlane

/-- A mapping rule as written in the configuration. -/
structure MappingRule where
  srcNet : String
  destIp : String
  endpointNet : Option String := none
  deriving Inhabited

/-- A mapping rule read into networks and an address. -/
structure Mapping where
  srcNet : IpNetwork
  destIp : IpAddr
  endpointNet : Option IpNetwork

namespace Mapping

/-- Reads a rule; each text that does not read gives an invalid-param error naming it. -/
def ofRule (rule : MappingRule) : Except Error Mapping := do
  let some src := IpNetwork.parse? rule.srcNet
    | throw ⟨.invalidParam, "invalid src_net: " ++ rule.srcNet⟩
  let some dest := IpAddr.parse? rule.destIp
    | throw ⟨.invalidParam, "invalid dest_ip: " ++ rule.destIp⟩
  let endpoint ← match rule.endpointNet with
    | none => pure none
    | some text =>
      match IpNetwork.parse? text with
      | some net => pure (some net)
      | none => throw ⟨.invalidParam, "invalid endpoint_net: " ++ text⟩
  pure ⟨src, dest, endpoint⟩

def applies (m : Mapping) (client endpoint : IpAddr) : Bool :=
  m.srcNet.contains client && m.endpointNet.all (·.contains endpoint)

end Mapping

/-- The mapping table, in the order of the configuration. -/
structure Resolver where
  mappings : List Mapping := []

namespace Resolver

def ofRules (rules : List MappingRule) : Except Error Resolver := do
  pure ⟨← rules.mapM Mapping.ofRule⟩

/-- The address a client should use for an endpoint address. -/
def mapAddress (r : Resolver) (address : String) (client : Option IpAddr) : String :=
  match client, SocketAddr.parse? address with
  | some c, some endpoint =>
    match r.mappings.find? (·.applies c endpoint.ip) with
    | some m => SocketAddr.render ⟨m.destIp, endpoint.port, 0⟩
    | none => address
  | _, _ => address

/-- Reads a stored endpoint value; a value that is not an endpoint is damaged, and the error
names its key. -/
def decode (key value : String) : Except Error Endpoint :=
  match Endpoint.read? value with
  | some e => pure e
  | none => throw ⟨.damagedEndpointValue, key⟩

def resolve (r : Resolver) (key value : String) (client : Option IpAddr) :
    Except Error Endpoint := do
  let e ← decode key value
  pure { e with address := r.mapAddress e.address client }

end Resolver

end ControlPlane
