import ControlPlane.Yaml.Decode
import ControlPlane.Key.Space
import ControlPlane.Key.Policy
import ControlPlane.Net.Mapping
import ControlPlane.Json.Basic
import ControlPlane.Host.Files

/-!
# Settings

The control plane reads its settings from a YAML text with one section per component. Every
field has a default, so an empty text is a valid setting; unknown keys are ignored, and a
key may appear only once in its section.

Once read, the settings are prepared: the two key prefixes lose their trailing slashes and
must stay non-empty and distinct, the banned-address patterns must compile, the address
mappings must read, and the reconcile page size must be positive.
-/

namespace ControlPlane

/-- Where services live and how their addresses are treated. -/
structure ServicesSection where
  keyPrefix : String := "/services"
  netMappings : List MappingRule := []
  bannedEndpointAddresses : List String := []
  deriving Inhabited

/-- Where configurations live. -/
structure ConfigsSection where
  keyPrefix : String := "/configs"
  deriving Inhabited

/-- The relational index's connection. -/
structure DatabaseSection where
  url : String := "sqlite::memory:"
  maxConnections : Nat := 4
  acquireTimeoutSecs : Nat := 5
  deriving Inhabited

/-- The coordination store's limits. -/
structure StoreSection where
  historyLimit : Nat := 4096
  channelCapacity : Nat := 1024
  reapIntervalSecs : Nat := 1
  deriving Inhabited

/-- The reconciler's schedule and page size; an interval of 0 turns the loop off. -/
structure ReconcileSection where
  intervalSecs : Nat := 600
  pageSize : Int := 1000
  deriving Inhabited

/-- All settings. -/
structure Settings where
  services : ServicesSection := {}
  configs : ConfigsSection := {}
  database : DatabaseSection := {}
  store : StoreSection := {}
  reconcile : ReconcileSection := {}
  deriving Inhabited

namespace Settings

open Yaml

/-! ## Reading -/

def maxU32 : Nat := Nat.pow 2 32 - 1

/-- An address mapping rule: `src_net` and `dest_ip` are required. -/
def readRule (d : Document) (path : Path) (pos : Nat) :
    Except DecodeError (MappingRule × Nat) :=
  let field (i : Nat) (acc : Option String × Option String × Option String) (path : Path)
      (pos : Nat) : Except DecodeError ((Option String × Option String × Option String) × Nat) :=
    match i with
    | 0 => do
      let (v, p) ← Decode.text d path pos
      pure ((some v, acc.2.1, acc.2.2), p)
    | 1 => do
      let (v, p) ← Decode.text d path pos
      pure ((acc.1, some v, acc.2.2), p)
    | _ => do
      let (v, p) ← Decode.optionalText d path pos
      pure ((acc.1, acc.2.1, v), p)
  let finish (acc : Option String × Option String × Option String) (_ : List Nat) :
      Except String (Option String × Option String × Option String) :=
    match acc with
    | (none, _, _) => throw "missing field `src_net`"
    | (_, none, _) => throw "missing field `dest_ip`"
    | _ => pure acc
  match Decode.record "NetMappingRule" ["src_net", "dest_ip", "endpoint_net"]
      (none, none, none) field finish d path pos with
  | .ok ((src, dest, net), p) => pure ({ srcNet := src.getD "", destIp := dest.getD "",
                                          endpointNet := net }, p)
  | .error e => throw e

/-- The services section. -/
def readServices (d : Document) (path : Path) (pos : Nat) :
    Except DecodeError (ServicesSection × Nat) :=
  Decode.record "ServicesSection" ["key_prefix", "net_mappings", "banned_endpoint_addresses"] {}
    (fun i acc path pos => match i with
      | 0 => do
        let (v, p) ← Decode.text d path pos
        pure ({ acc with keyPrefix := v }, p)
      | 1 => do
        let (v, p) ← Decode.list (fun path pos => readRule d path pos) d path pos
        pure ({ acc with netMappings := v }, p)
      | _ => do
        let (v, p) ← Decode.list (fun path pos => Decode.text d path pos) d path pos
        pure ({ acc with bannedEndpointAddresses := v }, p))
    (fun acc _ => pure acc) d path pos

/-- The configs section. -/
def readConfigs (d : Document) (path : Path) (pos : Nat) :
    Except DecodeError (ConfigsSection × Nat) :=
  Decode.record "ConfigsSection" ["key_prefix"] {}
    (fun _ acc path pos => do
      let (v, p) ← Decode.text d path pos
      pure ({ acc with keyPrefix := v }, p))
    (fun acc _ => pure acc) d path pos

/-- The database section. -/
def readDatabase (d : Document) (path : Path) (pos : Nat) :
    Except DecodeError (DatabaseSection × Nat) :=
  Decode.record "DatabaseSection" ["url", "max_connections", "acquire_timeout_secs"] {}
    (fun i acc path pos => match i with
      | 0 => do
        let (v, p) ← Decode.text d path pos
        pure ({ acc with url := v }, p)
      | 1 => do
        let (v, p) ← Decode.unsigned "u32" maxU32 d path pos
        pure ({ acc with maxConnections := v }, p)
      | _ => do
        let (v, p) ← Decode.unsigned "u64" Scalar.maxU64 d path pos
        pure ({ acc with acquireTimeoutSecs := v }, p))
    (fun acc _ => pure acc) d path pos

/-- The store section. -/
def readStore (d : Document) (path : Path) (pos : Nat) :
    Except DecodeError (StoreSection × Nat) :=
  Decode.record "StoreSection" ["history_limit", "channel_capacity", "reap_interval_secs"] {}
    (fun i acc path pos => match i with
      | 0 => do
        let (v, p) ← Decode.unsigned "usize" Scalar.maxU64 d path pos
        pure ({ acc with historyLimit := v }, p)
      | 1 => do
        let (v, p) ← Decode.unsigned "usize" Scalar.maxU64 d path pos
        pure ({ acc with channelCapacity := v }, p)
      | _ => do
        let (v, p) ← Decode.unsigned "u64" Scalar.maxU64 d path pos
        pure ({ acc with reapIntervalSecs := v }, p))
    (fun acc _ => pure acc) d path pos

/-- The reconcile section. -/
def readReconcile (d : Document) (path : Path) (pos : Nat) :
    Except DecodeError (ReconcileSection × Nat) :=
  Decode.record "ReconcileSection" ["interval_secs", "page_size"] {}
    (fun i acc path pos => match i with
      | 0 => do
        let (v, p) ← Decode.unsigned "u64" Scalar.maxU64 d path pos
        pure ({ acc with intervalSecs := v }, p)
      | _ => do
        let (v, p) ← Decode.signed64 d path pos
        pure ({ acc with pageSize := v }, p))
    (fun acc _ => pure acc) d path pos

/-- The whole settings record. -/
def read (d : Document) (path : Path) (pos : Nat) : Except DecodeError (Settings × Nat) :=
  Decode.record "AppConfig" ["services", "configs", "database", "store", "reconcile"] {}
    (fun i acc path pos => match i with
      | 0 => do
        let (v, p) ← readServices d path pos
        pure ({ acc with services := v }, p)
      | 1 => do
        let (v, p) ← readConfigs d path pos
        pure ({ acc with configs := v }, p)
      | 2 => do
        let (v, p) ← readDatabase d path pos
        pure ({ acc with database := v }, p)
      | 3 => do
        let (v, p) ← readStore d path pos
        pure ({ acc with store := v }, p)
      | _ => do
        let (v, p) ← readReconcile d path pos
        pure ({ acc with reconcile := v }, p))
    (fun acc _ => pure acc) d path pos

/-! ## Preparing -/

def addressPolicy (s : Settings) : Except Error AddressPolicy :=
  AddressPolicy.make s.services.bannedEndpointAddresses

def resolver (s : Settings) : Except Error Resolver := Resolver.ofRules s.services.netMappings

/-- Normalises the prefixes and checks what must hold before the settings are used. -/
def prepare (s : Settings) : Except Error Settings := do
  let services := trimTrailingSlashes s.services.keyPrefix
  if services.isEmpty then throw ⟨.invalidParam, "empty key prefix"⟩
  let configs := trimTrailingSlashes s.configs.keyPrefix
  if configs.isEmpty then throw ⟨.invalidParam, "empty key prefix"⟩
  if services == configs then throw ⟨.invalidParam, "service and config key prefixes overlap"⟩
  let s := { s with services := { s.services with keyPrefix := services },
                    configs := { s.configs with keyPrefix := configs } }
  let _ ← s.addressPolicy
  let _ ← s.resolver
  if s.reconcile.pageSize ≤ 0 then throw ⟨.invalidParam, "reconcile page_size must be positive"⟩
  pure s

def ofYaml (text : String) : Except Error Settings := do
  match decodeText text read with
  | .ok s => s.prepare
  | .error e => throw ⟨.invalidParam, "parse config fail: " ++ e.render⟩

def load (fs : FileSystem) (path : String) : Except Error Settings :=
  match fs.read path with
  | .ok text => ofYaml text
  | .error e => throw ⟨.invalidParam, "read config " ++ path ++ " fail: " ++ e.render⟩

/-! ## Using -/

def keyspace (s : Settings) : KeySpace := KeySpace.make s.services.keyPrefix s.configs.keyPrefix

def reapIntervalSecs (s : Settings) : Nat := max s.store.reapIntervalSecs 1

/-- The settings as a JSON record, section by section. -/
def toJson (s : Settings) : Json :=
  let rule (r : MappingRule) : Json :=
    .objOpt [("src_net", some (.str r.srcNet)), ("dest_ip", some (.str r.destIp)),
             ("endpoint_net", r.endpointNet.map .str)]
  .obj [
    ("services", .obj [("key_prefix", .str s.services.keyPrefix),
      ("net_mappings", .arr (s.services.netMappings.map rule)),
      ("banned_endpoint_addresses", .arr (s.services.bannedEndpointAddresses.map .str))]),
    ("configs", .obj [("key_prefix", .str s.configs.keyPrefix)]),
    ("database", .obj [("url", .str s.database.url),
      ("max_connections", .nat s.database.maxConnections),
      ("acquire_timeout_secs", .nat s.database.acquireTimeoutSecs)]),
    ("store", .obj [("history_limit", .nat s.store.historyLimit),
      ("channel_capacity", .nat s.store.channelCapacity),
      ("reap_interval_secs", .nat s.store.reapIntervalSecs)]),
    ("reconcile", .obj [("interval_secs", .nat s.reconcile.intervalSecs),
      ("page_size", .int s.reconcile.pageSize)])]

end Settings

end ControlPlane
