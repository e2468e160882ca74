import ControlPlane.Index.Table

/-!
# The configuration ledger

Every configuration write is mirrored into the ledger: the configuration's row takes the new
tag and value and becomes active again, and the write joins the history. A deleted
configuration keeps its row, marked deleted. The ledger also remembers, per application and
node, the version of a configuration that was last handed out.

Listing filters the active rows by tag and name prefix and pages them, newest change first.
-/

namespace ControlPlane

/-- One configuration write as the ledger records it. -/
structure ConfigChange where
  tag : String
  name : String
  appId : Int
  remark : String
  value : String
  deriving Inhabited

/-- A listed configuration: its tag, when it has one, and its name. -/
structure ConfigInfo where
  tag : Option String
  name : String
  deriving Inhabited

namespace Index

/-- Records a configuration write: the row is inserted or updated, and the history grows. -/
def recordPut (ix : Index) (c : ConfigChange) : Except Error Index := do
  ix.ensureOpen "new db tx fail"
  let (ix, now) := ix.tick
  let id := ix.nextConfigId
  let ix := { ix with nextConfigId := id + 1 }
  let configs :=
    if ix.configs.any (·.name == c.name) then
      ix.configs.map fun r =>
        if r.name == c.name then
          { r with status := .active, tag := c.tag, value := c.value, modifyTime := now }
        else r
    else ix.configs ++ [{ id, status := .active, tag := c.tag, name := c.name, value := c.value,
                          modifyTime := now }]
  let entry : HistoryEntry :=
    { id := ix.nextHistoryId, tag := c.tag, name := c.name, appId := c.appId,
      remark := c.remark, value := c.value }
  pure { ix with configs, history := ix.history ++ [entry], nextHistoryId := ix.nextHistoryId + 1 }

/-- Marks a configuration's row deleted. -/
def markDeleted (ix : Index) (name : String) : Except Error Index := do
  ix.ensureOpen "delete config fail"
  let (ix, now) := ix.tick
  pure { ix with configs := ix.configs.map fun r =>
    if r.name == name then { r with status := .deleted, modifyTime := now } else r }

/-- Remembers the version an application's node observed; applications numbered 0 or less
are not tracked. -/
def recordObserved (ix : Index) (appId : Int) (node name : String) (version : Int) :
    Except Error Index := do
  if appId ≤ 0 then return ix
  ix.ensureOpen "change app config state fail"
  let (ix, _) := ix.tick
  let same (o : Observation) : Bool := o.appId == appId && o.node == node && o.name == name
  let observations :=
    if ix.observations.any same then
      ix.observations.map fun o => if same o then { o with version } else o
    else ix.observations ++ [{ appId, node, name, version }]
  pure { ix with observations }

/-- The version an application's node last observed. -/
def observedVersion (ix : Index) (appId : Int) (node name : String) : Except Error (Option Int) := do
  ix.ensureOpen "query app config state fail"
  pure ((ix.observations.find? fun o => o.appId == appId && o.node == node && o.name == name).map
    (·.version))

/-- The active configurations with a tag (any, for the empty tag) and a name prefix (any, for
the empty prefix, and up to ASCII case otherwise): how many there are, and one page of them,
newest change first. A negative limit means all. -/
def list (ix : Index) (tag namePrefix : String) (skip limit : Int) :
    Except Error (Int × List ConfigInfo) := do
  ix.ensureOpen "get configs count fail"
  let pattern := escapeLike namePrefix ++ "%"
  let hits := ix.configs.filter fun r =>
    r.status == .active && (tag.isEmpty || r.tag == tag) && (namePrefix.isEmpty || like r.name pattern)
  let ordered := hits.mergeSort fun a b => newerFirst a.modifyTime a.id b.modifyTime b.id
  let rest := ordered.drop skip.toNat
  let page := if limit < 0 then rest else rest.take limit.toNat
  pure (hits.length, page.map fun r => ⟨if r.tag.isEmpty then none else some r.tag, r.name⟩)

/-- The recorded writes of a configuration, oldest first. -/
def historyOf (ix : Index) (name : String) : Except Error (List HistoryEntry) := do
  ix.ensureOpen "get config histories fail"
  pure (ix.history.filter (·.name == name))

end Index

end ControlPlane
