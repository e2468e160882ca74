import ControlPlane.Store.Watch
import ControlPlane.Index.Ledger
import ControlPlane.Settings
import ControlPlane.Metrics

/-!
# The control plane's state

The control plane is one coordination store, one relational index, one set of counters and
the settings they were built from, all read against one logical clock in milliseconds. An
`Action` runs against that state and may fail with a control-plane error; what it changed
before failing stays changed, as it does for calls that already reached the store.

Store calls fail with store errors, which an action sees through a context that names what
it was doing.
-/

namespace ControlPlane

/-- The state of a control plane. -/
structure Plane where
  keyspace : KeySpace := KeySpace.standard
  policy : AddressPolicy := {}
  resolver : Resolver := {}
  /-- How many index rows a reconcile pass reads at once. -/
  pageSize : Int := 1000
  store : Store := {}
  index : Index := {}
  metrics : Metrics := {}
  /-- The logical clock, in milliseconds. -/
  clock : Nat := 0

instance : Inhabited Plane := ⟨{}⟩

abbrev Action := ExceptT Error (StateM Plane)

namespace Plane

/-- A fresh control plane for settings. -/
def ofSettings (s : Settings) : Except Error Plane := do
  let policy ← s.addressPolicy
  let resolver ← s.resolver
  pure { keyspace := s.keyspace, policy, resolver, pageSize := s.reconcile.pageSize,
         store := Store.make s.store.historyLimit s.store.channelCapacity }

end Plane

/-- A store call at the current time; its failure is seen with a context. -/
def onStore {α : Type} (call : Store → Nat → Except StoreError α × Store) (context : String) :
    Action α := do
  let p ← get
  let (r, store) := call p.store p.clock
  set { p with store }
  match r with
  | .ok a => pure a
  | .error e => throw (Error.ofStore e context)

/-- A store call whose failure is kept as it is. -/
def onStoreRaw {α : Type} (call : Store → Nat → Except StoreError α × Store) :
    StateM Plane (Except StoreError α) := do
  let p ← get
  let (r, store) := call p.store p.clock
  set { p with store }
  pure r

def withStore (f : Store → Store) : Action Unit := modify fun p => { p with store := f p.store }

/-- An index call; it changes nothing when it fails. -/
def onIndex {α : Type} (call : Index → Except Error (α × Index)) : Action α := do
  let p ← get
  match call p.index with
  | .ok (a, index) => set { p with index }; pure a
  | .error e => throw e

def onIndexWrite (call : Index → Except Error Index) : Action Unit :=
  onIndex fun ix => (call ix).map ((), ·)

def onIndexRead {α : Type} (call : Index → Except Error α) : Action α :=
  onIndex fun ix => (call ix).map (·, ix)

def count (f : Metrics → Metrics) : Action Unit := modify fun p => { p with metrics := f p.metrics }

/-- Runs an action and counts its call under an operation, by its result. -/
def recorded {α : Type} (o : Operation) (act : Action α) : Action α := do
  let r ← ExceptT.lift act.run
  count (·.recordResult o r)
  MonadExcept.ofExcept r

def check (r : Except Error Unit) : Action Unit := MonadExcept.ofExcept r

end ControlPlane
