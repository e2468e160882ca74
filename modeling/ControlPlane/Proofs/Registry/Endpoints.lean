import ControlPlane.Registry.Register
import ControlPlane.Proofs.Json.ReadBack
import ControlPlane.Proofs.Key.Codec
import ControlPlane.Proofs.Store.Keys

/-!
# Endpoint keys under concurrent registry calls

The registry operations reach the store through a few kinds of calls, listed with what the
operations check before making them as `RegistryCall`. In whatever order the calls of
concurrent operations arrive, and at whatever times, every endpoint key holds an endpoint whose
address is the one the key names (`Interleaved.endpointsRead`). An endpoint key is written only
by a plug or an update for that very address, and the value written reads back as the
endpoint; a descriptor create writes a descriptor key, and deleting a service only deletes.

1. `descriptorDeletes_eq_ok`: the write of deleting a service, exactly.
2. `RegistryCall`, `Interleaved`: the calls, and the stores they reach in any order.
3. `RegistryCall.putsEndpoints`: the puts of one call (the step lemma).
4. `Interleaved.endpointsRead`: every reachable store (the run lemma).
-/

namespace ControlPlane

/-! ## The write of deleting a service -/

/-- One key read: a descriptor key adds its revision test and its delete, and any other key is
refused. -/
theorem descriptorDelete_eq_ok {ks : KeySpace} {w w' : ConditionalWrite} {kv : KeyValue} :
    descriptorDelete ks w kv = .ok w' ↔
      (∃ k, ks.decode kv.key = some k ∧ k.isDescriptor = true) ∧
      w' = { w with conditions := w.conditions ++ [.modRevisionEquals kv.key kv.modRevision],
                    onSuccess := w.onSuccess ++ [.delete kv.key] } := by
  unfold descriptorDelete
  cases hk : ks.decode kv.key with
  | none => exact ⟨(fun h => nomatch h), fun ⟨⟨_, h, _⟩, _⟩ => nomatch h⟩
  | some k =>
    cases hd : k.isDescriptor with
    | false =>
      simp only [hd, Bool.false_eq_true, ↓reduceIte]
      refine ⟨(fun h => nomatch h), ?_⟩
      rintro ⟨⟨k', hk', hd'⟩, -⟩
      cases Option.some.inj hk'
      exact absurd hd' (by simp [hd])
    | true =>
      simp only [if_true, Option.some.injEq, exists_eq_left', hd, true_and]
      exact ⟨fun h => (Except.ok.inj h).symm, fun h => congrArg Except.ok h.symm⟩

/-- The conditional delete of a read succeeds exactly when every key read is a descriptor key;
it then tests each key's revision and deletes them all, and writes nothing otherwise. -/
theorem descriptorDeletes_eq_ok {ks : KeySpace} {kvs : List KeyValue} {w : ConditionalWrite} :
    descriptorDeletes ks kvs = .ok w ↔
      (∀ kv ∈ kvs, ∃ k, ks.decode kv.key = some k ∧ k.isDescriptor = true) ∧
      w = { conditions := kvs.map fun kv => .modRevisionEquals kv.key kv.modRevision,
            onSuccess := kvs.map fun kv => .delete kv.key } := by
  -- the fold appends one condition and one delete per key to what it started from
  suffices fold : ∀ cs os, kvs.foldlM (descriptorDelete ks) ⟨cs, os, []⟩ = .ok w ↔
      (∀ kv ∈ kvs, ∃ k, ks.decode kv.key = some k ∧ k.isDescriptor = true) ∧
      w = { conditions := cs ++ kvs.map fun kv => .modRevisionEquals kv.key kv.modRevision,
            onSuccess := os ++ kvs.map fun kv => .delete kv.key } by
    rw [descriptorDeletes]
    simpa using fold [] []
  induction kvs with
  | nil =>
    intro cs os
    simp only [List.foldlM_nil, List.not_mem_nil, false_implies, implies_true, List.map_nil,
      List.append_nil, true_and]
    exact ⟨fun h => (Except.ok.inj h).symm, fun h => congrArg Except.ok h.symm⟩
  | cons kv kvs ih =>
    intro cs os
    simp only [List.foldlM_cons, List.mem_cons, forall_eq_or_imp, List.map_cons]
    cases hstep : descriptorDelete ks ⟨cs, os, []⟩ kv with
    | error e =>
      have : ¬ ∃ k, ks.decode kv.key = some k ∧ k.isDescriptor = true := fun hk =>
        nomatch hstep.symm.trans (descriptorDelete_eq_ok.2 ⟨hk, rfl⟩)
      exact ⟨(fun h => nomatch h), fun ⟨⟨hk, _⟩, _⟩ => absurd hk this⟩
    | ok w₁ =>
      obtain ⟨hk, rfl⟩ := descriptorDelete_eq_ok.1 hstep
      simp only [bind, Except.bind]
      rw [ih]
      simp only [hk, true_and, List.append_assoc, List.singleton_append]

/-! ## The keys the registry writes -/

namespace KeySpace

variable (ks : KeySpace) {service zone address : String}

theorem decode_descriptorKey (hz : checkServiceZone service zone = .ok ()) :
    ks.decode (ks.descriptorKey service zone) = some ⟨service, zone, .descriptor⟩ := by
  obtain ⟨hs, hz⟩ := checkServiceZone_ok hz
  exact ks.decode_encode ⟨segment_of_checkService hs, segment_of_checkZone hz, nofun⟩

theorem decode_nodeKey {policy : AddressPolicy} (hz : checkServiceZone service zone = .ok ())
    (ha : policy.check address = .ok ()) :
    ks.decode (ks.nodeKey service zone address) = some ⟨service, zone, .node address⟩ := by
  obtain ⟨hs, hz⟩ := checkServiceZone_ok hz
  refine ks.decode_encode ⟨segment_of_checkService hs, segment_of_checkZone hz, ?_⟩
  rintro a ⟨⟩
  exact policy.segment_of_check ha

end KeySpace

/-! ## The calls of registry operations -/

/-- The store calls the registry operations make, at any time, with what each operation has
checked before making them. Reads are of any key or range. -/
inductive RegistryCall (ks : KeySpace) (policy : AddressPolicy) : Store.Call → Prop where
  /-- A plug creates the descriptor key of a checked service zone. -/
  | create (now : Nat) (d : Descriptor) (hz : checkServiceZone d.service d.zone = .ok ()) :
      RegistryCall ks policy
        (.txn now (descriptorCreate (ks.descriptorKey d.service d.zone) d.text))
  | get (now : Nat) (key : String) : RegistryCall ks policy (.get now key)
  | read (now : Nat) (r : RangeRequest) : RegistryCall ks policy (.read now r)
  /-- A plug writes the endpoint key of its checked address. -/
  | endpoint (now : Nat) (service zone : String) (e : Endpoint) (lease : LeaseId)
      (hz : checkServiceZone service zone = .ok ()) (ha : policy.check e.address = .ok ()) :
      RegistryCall ks policy
        (.txn now (endpointWrite (ks.nodeKey service zone e.address) e.text lease))
  /-- An update rewrites the endpoint key of the address it was given. -/
  | update (now : Nat) (service zone : String) (e : Endpoint)
      (hz : checkServiceZone service zone = .ok ()) (ha : policy.check e.address = .ok ()) :
      RegistryCall ks policy
        (.txn now (endpointUpdate (ks.nodeKey service zone e.address) e.text))
  /-- An unplug deletes the endpoint key of a checked address. -/
  | unplug (now : Nat) (service zone address : String)
      (hz : checkServiceZone service zone = .ok ()) (ha : policy.check address = .ok ()) :
      RegistryCall ks policy (.delete now (ks.nodeKey service zone address))
  /-- Deleting a service deletes the descriptor keys it has read. -/
  | deleteDescriptors (now : Nat) (kvs : List KeyValue) (w : ConditionalWrite)
      (hw : descriptorDeletes ks kvs = .ok w) : RegistryCall ks policy (.txn now w)
  | grant (now : Nat) (ttl : Int) : RegistryCall ks policy (.grant now ttl)
  | revoke (now : Nat) (id : LeaseId) : RegistryCall ks policy (.revoke now id)
  | keepAlive (now : Nat) (id : LeaseId) : RegistryCall ks policy (.keepAlive now id)
  /-- Leases fall due and are swept at any time. -/
  | reap (now : Nat) : RegistryCall ks policy (.reap now)

/-- The stores an empty store reaches by registry calls, in any order and at any times. -/
inductive Interleaved (ks : KeySpace) (policy : AddressPolicy) : Store → Prop where
  | make (historyLimit channelCapacity : Nat) :
      Interleaved ks policy (Store.make historyLimit channelCapacity)
  | call {s : Store} {c : Store.Call} (hc : RegistryCall ks policy c) :
      Interleaved ks policy s → Interleaved ks policy (c.apply s)

theorem Interleaved.reachable {ks : KeySpace} {policy : AddressPolicy} {s : Store}
    (h : Interleaved ks policy s) : s.Reachable := by
  induction h with
  | make historyLimit channelCapacity => exact .make historyLimit channelCapacity
  | call _ _ ih => exact .call _ ih

/-! ## Endpoint keys read back -/

/-- Every endpoint key holds an endpoint whose address is the one the key names. -/
def EndpointsRead (ks : KeySpace) (s : Store) : Prop :=
  ∀ k service zone address, ks.decode k = some ⟨service, zone, .node address⟩ →
    ∀ v l, s.held k = some (v, l) → ∃ e, Endpoint.read? v = some e ∧ e.address = address

/-- Every put of an endpoint key in a list of writes puts an endpoint of the address the key
names. -/
def PutsEndpoints (ks : KeySpace) (ops : List WriteOp) : Prop :=
  ∀ k service zone address, ks.decode k = some ⟨service, zone, .node address⟩ →
    ∀ v b, .put k v b ∈ ops → ∃ e, Endpoint.read? v = some e ∧ e.address = address

section

variable {ks : KeySpace} {policy : AddressPolicy}

theorem putsEndpoints_of_forall_delete {ops : List WriteOp}
    (h : ∀ op ∈ ops, ∃ k, op = .delete k) : PutsEndpoints ks ops := by
  intro k service zone address _ v b hmem
  obtain ⟨_, heq⟩ := h _ hmem
  cases heq

theorem putsEndpoints_descriptor {service zone v : String} {b : LeaseBinding}
    (hz : checkServiceZone service zone = .ok ()) :
    PutsEndpoints ks [.put (ks.descriptorKey service zone) v b] := by
  intro k service' zone' address hk v' b' hmem
  obtain ⟨rfl, -, -⟩ : k = ks.descriptorKey service zone ∧ v' = v ∧ b' = b := by simpa using hmem
  rw [ks.decode_descriptorKey hz] at hk
  cases hk

/-- A put of an endpoint's own text under the key of its address reads back. -/
theorem putsEndpoints_endpoint {service zone : String} {e : Endpoint} {b : LeaseBinding}
    (hz : checkServiceZone service zone = .ok ()) (ha : policy.check e.address = .ok ()) :
    PutsEndpoints ks [.put (ks.nodeKey service zone e.address) e.text b] := by
  intro k service' zone' address hk v b' hmem
  obtain ⟨rfl, rfl, -⟩ : k = ks.nodeKey service zone e.address ∧ v = e.text ∧ b' = b := by
    simpa using hmem
  rw [ks.decode_nodeKey hz ha] at hk
  cases hk
  exact ⟨e, Endpoint.read?_text e, rfl⟩

theorem putsEndpoints_nil : PutsEndpoints ks [] := nofun

theorem PutsEndpoints.ite {c : Prop} [Decidable c] {a b : List WriteOp}
    (ha : PutsEndpoints ks a) (hb : PutsEndpoints ks b) : PutsEndpoints ks (if c then a else b) :=
  iteInduction (motive := PutsEndpoints ks) (fun _ => ha) fun _ => hb

/-- Whatever a registry call finds in the store, the puts it makes are of endpoints that read
back with the address of their key. -/
theorem RegistryCall.putsEndpoints {c : Store.Call} (hc : RegistryCall ks policy c) (t : Store) :
    PutsEndpoints ks (c.writesAt t) := by
  cases hc with
  | create now d hz =>
    exact .ite (putsEndpoints_descriptor hz) putsEndpoints_nil
  | get | read | grant | revoke | keepAlive | reap => exact putsEndpoints_nil
  | endpoint now service zone e lease hz ha =>
    exact .ite putsEndpoints_nil (putsEndpoints_endpoint hz ha)
  | update now service zone e hz ha =>
    exact .ite (putsEndpoints_endpoint hz ha) putsEndpoints_nil
  | unplug now service zone address =>
    exact putsEndpoints_of_forall_delete (by simp [Store.Call.writesAt])
  | deleteDescriptors now kvs w hw =>
    obtain ⟨-, rfl⟩ := descriptorDeletes_eq_ok.1 hw
    exact .ite (putsEndpoints_of_forall_delete (by simp)) putsEndpoints_nil

/-- One registry call keeps every endpoint key reading back: the sweep only removes keys, and
the call's own puts read back. -/
theorem EndpointsRead.apply {s : Store} {c : Store.Call} (hs : EndpointsRead ks s)
    (hc : s.Consistent) (hcall : RegistryCall ks policy c) : EndpointsRead ks (c.apply s) := by
  obtain ⟨t, swept, ops, hops, held⟩ := Store.Call.held_apply hc c
  intro k service zone address hk v l hv
  rw [held] at hv
  rcases Store.foldl_heldAfter_cases hv with before | ⟨b, hmem, -⟩
  · exact hs k service zone address hk v l (swept.kept _ _ before)
  · rcases hops with rfl | rfl
    · cases hmem
    · exact hcall.putsEndpoints t k service zone address hk v b hmem

/-- In every store that registry calls reach from an empty one, in any order and at any
times, every endpoint key holds an endpoint whose address is the one the key names. -/
theorem Interleaved.endpointsRead {s : Store} (h : Interleaved ks policy s) :
    EndpointsRead ks s := by
  induction h with
  | make historyLimit channelCapacity =>
    intro k service zone address _ v l hv
    simp [Store.held, Store.make, Store.find?] at hv
  | call hcall hs ih => exact ih.apply hs.reachable.consistent hcall

end

end ControlPlane
