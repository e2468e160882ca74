import ControlPlane.Index.Row
import ControlPlane.Index.Like
import ControlPlane.Service.Descriptor
import ControlPlane.Error

/-!
# The relational index

The control plane projects the service descriptors of the store into a relational index that
can be searched by name, and keeps a ledger of configuration changes beside it. Both live in
one database:

* the service table, one row per service zone, with the descriptor's fields, whether the row
  is active or soft-deleted, and whether its content hash was verified against the store;
* the configuration table, one row per name, with its tag, value and status;
* the history of configuration writes, in the order they happened;
* the versions that applications observed, per application, node and name.

Rows get numbers from a counter per table that every insert attempt moves on, also one that
turns into an update of an existing row. Every writing call takes one reading of a clock, and
the rows it touches share it as their modification time; readings only grow. Once the
database is closed, every call fails. Beside that, each call of the search index may fail on its
own with a database error (`Index.faults`), also after an earlier call of the same operation
answered; the ledger's calls fail only on a closed database.
-/

namespace ControlPlane

/-- A row of the service table. -/
structure ServiceRow where
  id : Int
  service : String
  zone : String
  /-- The kind of endpoint, written `type`. -/
  kind : String
  proto : String
  description : String
  contentHash : String
  status : RowStatus
  /-- Whether the content hash was checked against the stored descriptor. -/
  verified : Bool
  modifyTime : Nat
  deriving Inhabited

/-- A row of the configuration table. -/
structure ConfigRow where
  id : Int
  status : RowStatus
  tag : String
  name : String
  value : String
  modifyTime : Nat
  deriving Inhabited

/-- One recorded configuration write. -/
structure HistoryEntry where
  id : Int
  tag : String
  name : String
  /-- The application that wrote. -/
  appId : Int
  remark : String
  value : String
  deriving Inhabited

/-- The version of a configuration an application's node last observed. -/
structure Observation where
  appId : Int
  node : String
  name : String
  version : Int
  deriving Inhabited

/-- The calls of the search index, each of which a database error can fail on its own. -/
inductive IndexCall where
  | upsertPending
  | markVerified
  | upsertVerified
  | softDelete
  | search
  | find
  | pageAfter
  deriving DecidableEq, Repr

def IndexCall.upsertOf (verified : Bool) : IndexCall :=
  if verified then .upsertVerified else .upsertPending

/-- The relational index and configuration ledger. -/
structure Index where
  /-- The service rows, in number order. -/
  services : List ServiceRow := []
  /-- The configuration rows, in number order. -/
  configs : List ConfigRow := []
  /-- The configuration writes, in number order. -/
  history : List HistoryEntry := []
  observations : List Observation := []
  nextServiceId : Int := 1
  nextConfigId : Int := 1
  nextHistoryId : Int := 1
  /-- The last reading of the clock. -/
  clock : Nat := 0
  closed : Bool := false
  /-- The calls of the search index that fail with a database error. -/
  faults : List IndexCall := []
  deriving Inhabited

/-- A found service, as search lists it. -/
structure ServiceSummary where
  service : String
  zone : String
  kind : String
  deriving Inhabited

/-- One page of search results and the number of all matches. -/
structure SearchPage where
  services : List ServiceSummary
  total : Int
  deriving Inhabited

def maxSearchLimit : Int := 5000

namespace Index

def ensureOpen (ix : Index) (context : String) : Except Error Unit :=
  if ix.closed then throw (Error.ofIndex context) else pure ()

def Answers (ix : Index) (call : IndexCall) : Prop := ix.closed = false ∧ call ∉ ix.faults

instance (ix : Index) (call : IndexCall) : Decidable (ix.Answers call) :=
  inferInstanceAs (Decidable (_ ∧ _))

def ensureAnswers (ix : Index) (call : IndexCall) (context : String) : Except Error Unit :=
  if ix.Answers call then pure () else throw (Error.ofIndex context)

theorem ensureAnswers_pos {ix : Index} {call : IndexCall} {context : String}
    (h : ix.Answers call) : ix.ensureAnswers call context = .ok () :=
  if_pos h

theorem ensureAnswers_neg {ix : Index} {call : IndexCall} {context : String}
    (h : ¬ ix.Answers call) : ix.ensureAnswers call context = .error (Error.ofIndex context) :=
  if_neg h

/-- A call that goes on past the check answered only where the index answers it. -/
theorem answers_of_ensureAnswers_bind {α : Type} {ix : Index} {call : IndexCall} {context : String}
    {f : Unit → Except Error α} {a : α} (h : (ix.ensureAnswers call context >>= f) = .ok a) :
    ix.Answers call ∧ f () = .ok a := by
  unfold ensureAnswers at h
  split at h
  · exact ⟨‹_›, h⟩
  · cases h

def tick (ix : Index) : Index × Nat := ({ ix with clock := ix.clock + 1 }, ix.clock + 1)

/-- Inserts a descriptor's row, or updates the row of its service zone. An active row whose
content hash stays keeps its modification time and stays verified if it was; any other row
takes the new verification and the new time. -/
def upsertRow (now : Nat) (verified : Bool) (ix : Index) (d : Descriptor) : Index :=
  let id := ix.nextServiceId
  let ix := { ix with nextServiceId := id + 1 }
  let fresh : ServiceRow := {
    id, service := d.service, zone := d.zone, kind := d.kind, proto := d.proto,
    description := d.description, contentHash := d.contentHash, status := .active, verified,
    modifyTime := now }
  if ix.services.any fun r => r.service == d.service && r.zone == d.zone then
    let update (r : ServiceRow) : ServiceRow :=
      if r.service == d.service && r.zone == d.zone then
        let unchanged := r.status == .active && r.contentHash == d.contentHash
        { r with
          verified := if unchanged then r.verified || verified else verified,
          modifyTime := if unchanged then r.modifyTime else now,
          status := .active, kind := d.kind, proto := d.proto, description := d.description,
          contentHash := d.contentHash }
      else r
    { ix with services := ix.services.map update }
  else { ix with services := ix.services ++ [fresh] }

/-- Writes the rows of descriptors in one transaction, verified or not. -/
def upsert (ix : Index) (descs : List Descriptor) (verified : Bool) : Except Error Index := do
  if descs.isEmpty then return ix
  ix.ensureAnswers (.upsertOf verified) "update db fail"
  let (ix, now) := ix.tick
  pure (descs.foldl (upsertRow now verified) ix)

/-- Marks the active rows whose service zone and content hash match as verified. -/
def markVerified (ix : Index) (descs : List Descriptor) : Except Error Index := do
  if descs.isEmpty then return ix
  ix.ensureAnswers .markVerified "update db fail"
  let mark (ix : Index) (d : Descriptor) : Index :=
    { ix with services := ix.services.map fun r =>
        if r.service == d.service && r.zone == d.zone && r.contentHash == d.contentHash
          && r.status == .active then { r with verified := true } else r }
  pure (descs.foldl mark ix)

/-- Whether a row belongs to a service, and to a zone when one is given. -/
def ServiceRow.isOf (service : String) (zone : Option String) (r : ServiceRow) : Bool :=
  r.service == service && (match zone with
    | some z => r.zone == z
    | none => true)

/-- Soft-deletes the active rows of a service, or of one zone; answers how many. -/
def softDelete (ix : Index) (service : String) (zone : Option String) : Except Error (Nat × Index) := do
  ix.ensureAnswers .softDelete "delete service db items fail"
  let (ix, now) := ix.tick
  let hit (r : ServiceRow) : Bool := ServiceRow.isOf service zone r && r.status == .active
  let count := (ix.services.filter hit).length
  pure (count, { ix with services := ix.services.map fun r =>
    if (hit r) then { r with status := .deleted, modifyTime := now } else r })

/-- Whether `a` comes before `b` in the order of search: newest change first, then the
higher number. -/
def newerFirst (aTime : Nat) (aId : Int) (bTime : Nat) (bId : Int) : Bool :=
  aTime > bTime || (aTime == bTime && aId ≥ bId)

/-- Searches the active, verified rows whose service contains the query, up to ASCII case:
all of them are counted, and one page of them is listed, newest change first. -/
def search (ix : Index) (query : String) (skip limit : Int) : Except Error SearchPage := do
  if limit > maxSearchLimit then
    throw ⟨.invalidParam, "limit " ++ toString limit ++ " exceeds " ++ toString maxSearchLimit⟩
  if skip < 0 || limit < 0 then throw ⟨.invalidParam, "negative skip or limit"⟩
  ix.ensureAnswers .search "query db services fail"
  let pattern := "%" ++ escapeLike query ++ "%"
  let hits := ix.services.filter fun r =>
    r.status == .active && r.verified && like r.service pattern
  let total : Int := hits.length
  if total > skip && limit > 0 then
    let ordered := hits.mergeSort fun a b => newerFirst a.modifyTime a.id b.modifyTime b.id
    let page := (ordered.drop skip.toNat).take limit.toNat
    pure ⟨page.map fun r => ⟨r.service, r.zone, r.kind⟩, total⟩
  else pure ⟨[], total⟩

/-- The row of a service zone. -/
def find (ix : Index) (service zone : String) : Except Error (Option ServiceRow) := do
  ix.ensureAnswers .find "query db services fail"
  pure (ix.services.find? fun r => r.service == service && r.zone == zone)

/-- The rows numbered after `after`, in number order, at most `limit` of them; a negative limit
means all. -/
def pageAfter (ix : Index) (after limit : Int) : Except Error (List ServiceRow) := do
  ix.ensureAnswers .pageAfter "query db services fail"
  let rows := ix.services.filter (·.id > after)
  pure (if limit < 0 then rows else rows.take limit.toNat)

end Index

end ControlPlane
