import ControlPlane.Plane.Basic

/-!
# Dynamic configurations

A configuration is a named value in the store, under the configuration prefix. Its version is
the revision of its last write. A writer may pass the version it read: the write then lands
only while that is still the version, and is refused as an invalid version otherwise; a
negative version writes unconditionally. Every write that lands is mirrored into the ledger,
and every read remembers, per application and node, the version handed out.

A range lists the configurations with names in `[lower, upper)`, at most twenty of them, and
says whether more matched; an empty upper bound runs to the end of the configurations.
-/

namespace ControlPlane

/-- A configuration as its readers see it. -/
structure ConfigItem where
  name : String
  value : String
  /-- The revision of the configuration's last write. -/
  version : Revision
  deriving Inhabited

def configRangeLimit : Nat := 20

def ConfigItem.ofEntry (name : String) (kv : KeyValue) : ConfigItem := ⟨name, kv.value, kv.modRevision⟩

/-- Reads a configuration and remembers which version the application's node observed. -/
def readConfig (appId : Int) (node name : String) : Action (ConfigItem × Revision) := do
  check (checkName name)
  let key := (← get).keyspace.configKey name
  let (kv, rev) ← onStore (fun s now => s.get now key) "get config fail"
  let some kv := kv | throw ⟨.notFound, name⟩
  let item := ConfigItem.ofEntry name kv
  onIndexWrite (·.recordObserved appId node name item.version)
  pure (item, rev)

def getConfig (appId : Int) (node name : String) : Action (ConfigItem × Revision) :=
  recorded .configGet (readConfig appId node name)

/-- Writes a configuration, conditionally on its version unless that is negative, and records
the write in the ledger; answers the revision of the write. Counted as a configuration
write. -/
def putConfig (tag name : String) (appId : Int) (remark value : String) (version : Int) :
    Action Revision :=
  recorded .configPut do
    check (checkName name)
    let key := (← get).keyspace.configKey name
    let rev ←
      if version < 0 then onStore (fun s now => s.put now key value .detach) "put config fail"
      else do
        let w : ConditionalWrite :=
          { conditions := [.modRevisionEquals key version], onSuccess := [.put key value .detach] }
        let (ok, rev) ← onStore (fun s now => s.txn now w) "put config fail"
        if !ok then throw ⟨.invalidVersion, name ++ "@" ++ toString version⟩
        pure rev
    onIndexWrite (·.recordPut { tag, name, appId, remark, value })
    pure rev

/-- The configurations with names from `lower` up to `upper`, and whether more matched.
Counted as a configuration range. -/
def rangeConfigs (lower upper : String) (sort : Option (SortTarget × SortOrder)) :
    Action (List ConfigItem × Bool) :=
  recorded .configRange do
    check (checkNamePrefix lower)
    check (checkNamePrefix upper)
    let ks := (← get).keyspace
    let endKey := if upper.isEmpty then ks.configRangeEnd else ks.configKey upper
    let request : RangeRequest :=
      { key := ks.configKey lower, rangeEnd := some endKey, limit := configRangeLimit, sort }
    let r ← onStore (fun s now => s.read now request) "range config fail"
    let items := r.kvs.filterMap fun kv => (ks.configName kv.key).map (ConfigItem.ofEntry · kv)
    pure (items, r.more)

/-- Marks a configuration deleted in the ledger, then deletes its key. Counted as a
configuration deletion. -/
def deleteConfig (name : String) : Action Unit :=
  recorded .configDelete do
    check (checkName name)
    onIndexWrite (·.markDeleted name)
    let key := (← get).keyspace.configKey name
    let _ ← onStore (fun s now => s.delete now key) "delete config fail"

/-- The active configurations of the ledger with a tag and a name prefix, newest first, with
their count. -/
def listConfigs (tag namePrefix : String) (skip limit : Int) : Action (Int × List ConfigInfo) := do
  if skip < 0 || limit < 0 then throw ⟨.invalidParam, "negative skip or limit"⟩
  onIndexRead (·.list tag namePrefix skip limit)

/-- The recorded writes of a configuration. -/
def configHistory (name : String) : Action (List HistoryEntry) := do
  check (checkName name)
  onIndexRead (·.historyOf name)

end ControlPlane
