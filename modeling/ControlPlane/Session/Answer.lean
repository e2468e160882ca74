import ControlPlane.Plane.Watch
import ControlPlane.Reconcile.Run
import ControlPlane.Json.Write

/-!
# Session answers

The JSON form of everything a session step answers. Control-plane errors carry their code
and message; raw store errors carry `store:` and their status, with their detail; a step the
session cannot carry out answers `bad_input`.
-/

namespace ControlPlane

namespace Answer

def error (e : Error) : Json := .obj [("error", .str e.code), ("message", .str e.message)]

def storeError (e : StoreError) : Json :=
  .obj [("error", .str ("store:" ++ e.status.name)), ("message", .str e.detail)]

def badInput (message : String) : Json :=
  .obj [("error", .str "bad_input"), ("message", .str message)]

def ok : Json := .obj [("ok", .bool true)]

def result {α : Type} (render : α → Json) : Except Error α → Json
  | .ok a => render a
  | .error e => error e

def storeResult {α : Type} (render : α → Json) : Except StoreError α → Json
  | .ok a => render a
  | .error e => storeError e

def keyValue (kv : KeyValue) : Json :=
  .obj [("key", .str kv.key), ("value", .str kv.value), ("create_revision", .int kv.createRevision),
        ("mod_revision", .int kv.modRevision), ("version", .int kv.version),
        ("lease", .int kv.lease)]

def event (e : WatchEvent) : Json :=
  .obj [("kind", .str (if e.kind == .put then "put" else "delete")), ("kv", keyValue e.kv)]

def events (es : List WatchEvent) : Json := .arr (es.map event)

def grant (g : LeaseGrant) : Json := .obj [("lease_id", .int g.id), ("ttl", .int g.ttl)]

def zoneView (v : ZoneView) : Json :=
  match v.descriptor.toJson with
  | .obj fields => .obj (fields ++ [("endpoints", .arr (v.endpoints.map Endpoint.toJson))])
  | other => other

def snapshot (s : ServiceSnapshot) : Json :=
  .obj [("service", .str s.service), ("zones", .obj (s.zones.map fun (z, v) => (z, zoneView v)))]

def serviceResult (r : ServiceSnapshot × Revision) : Json :=
  .obj [("service", snapshot r.1), ("revision", .int r.2)]

def zonesResult (r : ServiceZones × Revision) : Json :=
  .obj [("service", .obj [("service", .str r.1.service), ("zones", .arr (r.1.zones.map .str))]),
        ("revision", .int r.2)]

def searchPage (p : SearchPage) : Json :=
  .obj [("services", .arr (p.services.map fun s =>
          .obj [("service", .str s.service), ("zone", .str s.zone), ("type", .str s.kind)])),
        ("total", .int p.total)]

def configItem (c : ConfigItem) : Json :=
  .obj [("name", .str c.name), ("value", .str c.value), ("version", .int c.version)]

def configResult (r : ConfigItem × Revision) : Json :=
  .obj [("config", configItem r.1), ("revision", .int r.2)]

def configRange (r : List ConfigItem × Bool) : Json :=
  .obj [("configs", .arr (r.1.map configItem)), ("more", .bool r.2)]

def configList (r : Int × List ConfigInfo) : Json :=
  .obj [("total", .int r.1),
        ("items", .arr (r.2.map fun i => .obj [("tag", Json.strOrNull i.tag), ("name", .str i.name)]))]

def history (es : List HistoryEntry) : Json :=
  .arr (es.map fun e => .obj [("id", .int e.id), ("tag", .str e.tag), ("name", .str e.name),
    ("modified_by", .int e.appId), ("remark", .str e.remark), ("value", .str e.value)])

def indexRow (r : ServiceRow) : Json :=
  .obj [("id", .int r.id), ("service", .str r.service), ("zone", .str r.zone),
        ("type", .str r.kind), ("proto", .str r.proto), ("description", .str r.description),
        ("content_hash", .str r.contentHash), ("status", .str r.status.name),
        ("hash_verified", .bool r.verified)]

def zoneKeys (ks : List ZoneKey) : Json := .arr (ks.map fun (s, z) => .arr [.str s, .str z])

def reportFields (r : ReconcileReport) : List (String × Json) :=
  [("mode", .str r.mode.name), ("store_keys", .nat r.storeKeys), ("index_rows", .nat r.indexRows),
   ("missing", zoneKeys r.missing), ("fixed", .nat r.fixed), ("orphaned", zoneKeys r.orphaned)]

def report (r : ReconcileReport) : Json := .obj (reportFields r)

def reportWithVerdict (r : ReconcileReport) : Json :=
  .obj (reportFields r ++ [("is_consistent", .bool r.isConsistent)])

def outcome : WatchOutcome → Json
  | .service r => result serviceResult r
  | .config r => result configResult r
  | .events r => storeResult events r

end Answer

end ControlPlane
