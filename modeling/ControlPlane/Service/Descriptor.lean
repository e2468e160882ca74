import ControlPlane.Json.Write
import ControlPlane.Json.Fields
import ControlPlane.Digest.Sha256

/-!
# Descriptors and endpoints

A service zone is described once, by its **descriptor**: the service, the zone, the kind of
endpoint (`type`), the interface definition (`proto`) and a description. The descriptor's
**content hash** is the SHA-256 of the compact JSON object of those five fields, all present
and in that order; two descriptors describe the same thing exactly when their hashes agree.

An **endpoint** is one reachable instance: its kind, its address, its configuration and its
interface definition.

Both are stored as compact JSON objects: fields in declaration order, and every field but the
service of a descriptor and the address of an endpoint left out when empty. Read back, both
accept the object and the array form; an endpoint must name its address.
-/

namespace ControlPlane

/-- The description of a service zone. -/
structure Descriptor where
  service : String := ""
  zone : String := ""
  /-- The kind of endpoint, written `type`. -/
  kind : String := ""
  proto : String := ""
  description : String := ""
  contentHash : String := ""
  deriving Inhabited, BEq

namespace Descriptor

/-- The stored form: `service` always, the other fields when not empty. -/
def toJson (d : Descriptor) : Json :=
  let opt (k v : String) : String × Option Json := (k, if v.isEmpty then none else some (.str v))
  Json.objOpt [("service", some (.str d.service)), opt "zone" d.zone, opt "type" d.kind,
    opt "proto" d.proto, opt "description" d.description, opt "content_hash" d.contentHash]

def text (d : Descriptor) : String := d.toJson.write

/-- The text the content hash is taken of: the five content fields, all present. -/
def hashInput (d : Descriptor) : String :=
  (Json.obj [("service", .str d.service), ("zone", .str d.zone), ("type", .str d.kind),
    ("proto", .str d.proto), ("description", .str d.description)]).write

def computeHash (d : Descriptor) : String := sha256Hex d.hashInput

def hashed (d : Descriptor) : Descriptor := { d with contentHash := d.computeHash }

def shape : Json.RecordShape :=
  ⟨["service", "zone", "type", "proto", "description", "content_hash"], []⟩

/-- Reads a stored descriptor back. -/
def read? (text : String) : Option Descriptor :=
  match Json.readRecord shape text with
  | some [service, zone, kind, proto, description, contentHash] =>
    some { service, zone, kind, proto, description, contentHash }
  | _ => none

end Descriptor

/-- One reachable instance of a service. -/
structure Endpoint where
  /-- The kind of endpoint, written `type`. -/
  kind : String := ""
  address : String
  config : String := ""
  proto : String := ""
  deriving Inhabited, BEq

namespace Endpoint

/-- The stored form: `address` always, the other fields when not empty. -/
def toJson (e : Endpoint) : Json :=
  let opt (k v : String) : String × Option Json := (k, if v.isEmpty then none else some (.str v))
  Json.objOpt [opt "type" e.kind, ("address", some (.str e.address)), opt "config" e.config,
    opt "proto" e.proto]

def text (e : Endpoint) : String := e.toJson.write

def shape : Json.RecordShape := ⟨["type", "address", "config", "proto"], ["address"]⟩

/-- Reads a stored endpoint back. -/
def read? (text : String) : Option Endpoint :=
  match Json.readRecord shape text with
  | some [kind, address, config, proto] => some { kind, address, config, proto }
  | _ => none

end Endpoint

end ControlPlane
