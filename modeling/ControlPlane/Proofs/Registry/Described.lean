import ControlPlane.Proofs.Registry.Endpoints
import ControlPlane.Proofs.Store.PrefixRange

/-!
# Described endpoints

An endpoint key should never outlive its zone's descriptor key. Unlike the endpoint values of
`Proofs.Registry.Endpoints`, this is not a property of each call alone: a plug writes its
endpoint key because it saw the descriptor a moment before, and deleting a service removes a
descriptor because its read found no endpoint under it. What a call needs from the store it
runs on is `DescribedWrites`; given that, one call keeps the registry's keys
(`RegistryKeys.apply`), and the operations, run one after another, provide it.

Descriptor keys are created under no lease, and only deleting a service deletes them, so a
descriptor key once seen stays through every sweep and every other call (`ZoneHeld.apply`).
-/

namespace ControlPlane

/-- Descriptor keys are held by no lease. -/
def DescriptorsUnleased (ks : KeySpace) (s : Store) : Prop :=
  ∀ k service zone, ks.decode k = some ⟨service, zone, .descriptor⟩ →
    ∀ v l, s.held k = some (v, l) → l = 0

/-- The descriptor key of a zone is held. -/
def ZoneHeld (ks : KeySpace) (s : Store) (service zone : String) : Prop :=
  (s.held (ks.descriptorKey service zone)).isSome

/-- Every endpoint key has its zone's descriptor key beside it. -/
def Described (ks : KeySpace) (s : Store) : Prop :=
  ∀ k service zone address, ks.decode k = some ⟨service, zone, .node address⟩ →
    (s.held k).isSome → ZoneHeld ks s service zone

/-- The keys of a registry: the store is consistent, every endpoint key reads back with its
address and has its descriptor key beside it, and no lease holds a descriptor key. -/
structure RegistryKeys (ks : KeySpace) (s : Store) : Prop where
  consistent : s.Consistent
  endpoints : EndpointsRead ks s
  described : Described ks s
  unleased : DescriptorsUnleased ks s

/-- Writes that keep every endpoint key described, against the swept store they apply to: an
endpoint key is put only beside its descriptor key or over itself, and a descriptor key is
deleted only when no endpoint key of its zone is held or put. -/
structure DescribedWrites (ks : KeySpace) (ops : List WriteOp) (t : Store) : Prop where
  puts : ∀ k service zone address, ks.decode k = some ⟨service, zone, .node address⟩ →
    ∀ v b, .put k v b ∈ ops → ZoneHeld ks t service zone ∨ (t.held k).isSome
  deletes : ∀ service zone, .delete (ks.descriptorKey service zone) ∈ ops →
    ∀ k address, ks.decode k = some ⟨service, zone, .node address⟩ →
      t.held k = none ∧ ∀ v b, .put k v b ∉ ops

/-- Every put of a descriptor key in a list of writes holds it by no lease. -/
def PutsDetached (ks : KeySpace) (ops : List WriteOp) : Prop :=
  ∀ k service zone, ks.decode k = some ⟨service, zone, .descriptor⟩ →
    ∀ v b, .put k v b ∈ ops → b = .detach

theorem KeySpace.decode_descriptorKey_of_node {ks : KeySpace} {k service zone address : String}
    (h : ks.decode k = some ⟨service, zone, .node address⟩) :
    ks.decode (ks.descriptorKey service zone) = some ⟨service, zone, .descriptor⟩ := by
  obtain ⟨-, hk⟩ := ks.eq_encode_of_decode h
  exact ks.decode_encode ⟨hk.service, hk.zone, nofun⟩

section

variable {ks : KeySpace} {policy : AddressPolicy} {s t : Store}

/-! ## Sweeps keep descriptor keys -/

theorem ZoneHeld.sweep {service zone : String}
    (hz : ks.decode (ks.descriptorKey service zone) = some ⟨service, zone, .descriptor⟩)
    (hu : DescriptorsUnleased ks s) (swept : s.Sweeps t) (h : ZoneHeld ks s service zone) :
    ZoneHeld ks t service zone := by
  obtain ⟨⟨v, l⟩, hv⟩ := Option.isSome_iff_exists.1 h
  have unleased : l = 0 := hu _ _ _ hz v l hv
  subst unleased
  exact Option.isSome_iff_exists.2 ⟨_, swept.unleased _ _ hv⟩

theorem DescriptorsUnleased.sweep (hu : DescriptorsUnleased ks s) (swept : s.Sweeps t) :
    DescriptorsUnleased ks t :=
  fun k service zone hk v l hv => hu k service zone hk v l (swept.kept _ _ hv)

theorem Described.sweep (hd : Described ks s) (hu : DescriptorsUnleased ks s) (swept : s.Sweeps t) :
    Described ks t := by
  intro k service zone address hk held
  obtain ⟨p, hp⟩ := Option.isSome_iff_exists.1 held
  have before : ZoneHeld ks s service zone :=
    hd k service zone address hk (by rw [swept.kept _ _ hp]; rfl)
  exact before.sweep (ks.decode_descriptorKey_of_node hk) hu swept

/-! ## One call -/

theorem PutsDetached.ite {c : Prop} [Decidable c] {a b : List WriteOp}
    (ha : PutsDetached ks a) (hb : PutsDetached ks b) : PutsDetached ks (if c then a else b) :=
  iteInduction (motive := PutsDetached ks) (fun _ => ha) fun _ => hb

theorem putsDetached_nil : PutsDetached ks [] := nofun

theorem putsDetached_endpoint {service zone address v : String} {b : LeaseBinding}
    (hz : checkServiceZone service zone = .ok ()) (ha : policy.check address = .ok ()) :
    PutsDetached ks [.put (ks.nodeKey service zone address) v b] := by
  intro k service' zone' hk v' b' hmem
  obtain ⟨rfl, -, -⟩ : k = ks.nodeKey service zone address ∧ v' = v ∧ b' = b := by
    simpa using hmem
  rw [ks.decode_nodeKey hz ha] at hk
  cases hk

/-- The registry puts descriptor keys under no lease. -/
theorem RegistryCall.putsDetached {c : Store.Call} (hc : RegistryCall ks policy c) (t : Store) :
    PutsDetached ks (c.writesAt t) := by
  cases hc with
  | create now d hz =>
    refine .ite (fun k service zone _ v b hmem => ?_) putsDetached_nil
    simp only [descriptorCreate, List.mem_singleton, WriteOp.put.injEq] at hmem
    exact hmem.2.2
  | get | read | grant | revoke | keepAlive | reap => exact putsDetached_nil
  | endpoint now service zone e lease hz ha => exact .ite putsDetached_nil (putsDetached_endpoint hz ha)
  | update now service zone e hz ha => exact .ite (putsDetached_endpoint hz ha) putsDetached_nil
  | unplug now service zone address => simp [PutsDetached, Store.Call.writesAt]
  | deleteDescriptors now kvs w hw =>
    obtain ⟨-, rfl⟩ := descriptorDeletes_eq_ok.1 hw
    exact .ite (by simp [PutsDetached]) putsDetached_nil

/-! ## Writes that keep endpoints described -/

theorem describedWrites_nil : DescribedWrites ks [] t := ⟨nofun, nofun⟩

theorem DescribedWrites.ite {c : Prop} [Decidable c] {a b : List WriteOp}
    (ha : c → DescribedWrites ks a t) (hb : ¬ c → DescribedWrites ks b t) :
    DescribedWrites ks (if c then a else b) t :=
  iteInduction (motive := fun ops => DescribedWrites ks ops t) ha hb

theorem describedWrites_descriptorPut {service zone v : String} {b : LeaseBinding}
    (hz : checkServiceZone service zone = .ok ()) :
    DescribedWrites ks [.put (ks.descriptorKey service zone) v b] t := by
  refine ⟨fun k service' zone' address hk v' b' hmem => ?_, fun _ _ hmem => by simp at hmem⟩
  obtain ⟨rfl, -, -⟩ : k = ks.descriptorKey service zone ∧ v' = v ∧ b' = b := by simpa using hmem
  rw [ks.decode_descriptorKey hz] at hk
  cases hk

/-- An endpoint key put beside its zone's descriptor key. -/
theorem describedWrites_endpointPut {service zone address v : String} {b : LeaseBinding}
    (hz : checkServiceZone service zone = .ok ()) (ha : policy.check address = .ok ())
    (held : ZoneHeld ks t service zone) :
    DescribedWrites ks [.put (ks.nodeKey service zone address) v b] t := by
  refine ⟨fun k service' zone' address' hk v' b' hmem => ?_, fun _ _ hmem => by simp at hmem⟩
  obtain ⟨rfl, -, -⟩ : k = ks.nodeKey service zone address ∧ v' = v ∧ b' = b := by
    simpa using hmem
  rw [ks.decode_nodeKey hz ha] at hk
  cases hk
  exact .inl held

theorem describedWrites_overwrite {key v : String} {b : LeaseBinding} (held : (t.held key).isSome) :
    DescribedWrites ks [.put key v b] t := by
  refine ⟨fun k service zone address _ v' b' hmem => ?_, fun _ _ hmem => by simp at hmem⟩
  obtain ⟨rfl, -, -⟩ : k = key ∧ v' = v ∧ b' = b := by simpa using hmem
  exact .inr held

/-- Deleting an endpoint key deletes no descriptor key. -/
theorem describedWrites_endpointDelete {service zone address : String}
    (hz : checkServiceZone service zone = .ok ()) (ha : policy.check address = .ok ()) :
    DescribedWrites ks [.delete (ks.nodeKey service zone address)] t := by
  refine ⟨fun _ _ _ _ _ _ _ hmem => by simp at hmem, fun service' zone' hmem k address' hk => ?_⟩
  have same : ks.descriptorKey service' zone' = ks.nodeKey service zone address := by
    simpa using hmem
  have := ks.decode_descriptorKey_of_node hk
  rw [same, ks.decode_nodeKey hz ha] at this
  cases this

/-- Deleting descriptor keys of zones that hold no endpoint key. -/
theorem describedWrites_descriptorDeletes {kvs : List KeyValue}
    (hnone : ∀ kv ∈ kvs, ∀ k service zone address,
      ks.decode kv.key = some ⟨service, zone, .descriptor⟩ →
      ks.decode k = some ⟨service, zone, .node address⟩ → t.held k = none) :
    DescribedWrites ks (kvs.map fun kv => .delete kv.key) t := by
  refine ⟨fun _ _ _ _ _ _ _ hmem => by simp at hmem, fun service zone hmem k address hk => ?_⟩
  obtain ⟨kv, hkv, hkey⟩ : ∃ kv ∈ kvs, kv.key = ks.descriptorKey service zone := by
    simpa using hmem
  have hd : ks.decode kv.key = some ⟨service, zone, .descriptor⟩ := by
    rw [hkey]
    exact ks.decode_descriptorKey_of_node hk
  exact ⟨hnone kv hkv k service zone address hd hk, fun v b => by simp⟩

/-- A call whose descriptor puts are detached keeps descriptor keys unleased: a descriptor key
after it was there under no lease, or was put detached. -/
theorem DescriptorsUnleased.apply {c : Store.Call} (h : DescriptorsUnleased ks s) (hc : s.Consistent)
    (hdetached : ∀ t, PutsDetached ks (c.writesAt t)) : DescriptorsUnleased ks (c.apply s) := by
  intro k service zone hk v l hv
  rcases c.held_apply_cases hc hv with before | ⟨t, b, hmem, detached⟩
  · exact h k service zone hk v l before
  · exact detached (hdetached t k service zone hk v b hmem)

/-- One registry call keeps the registry's keys, when its writes keep endpoints described on
the store they apply to. -/
theorem RegistryKeys.apply {c : Store.Call} (h : RegistryKeys ks s) (hcall : RegistryCall ks policy c)
    (hw : ∀ t, s.Sweeps t → DescribedWrites ks (c.writesAt t) t) : RegistryKeys ks (c.apply s) := by
  obtain ⟨t, swept, ops, hops, held⟩ := Store.Call.held_apply h.consistent c
  have described_t := h.described.sweep h.unleased swept
  refine ⟨h.consistent.apply c, h.endpoints.apply h.consistent hcall, ?_, ?_⟩
  · -- an endpoint key after the call was there or was put, and either way its zone's
    -- descriptor was there; only a delete that no endpoint key survives removes it
    intro k service zone address hk after
    obtain ⟨⟨v, l⟩, hv⟩ := Option.isSome_iff_exists.1 after
    rw [held] at hv
    unfold ZoneHeld
    rw [held]
    rcases hops with rfl | rfl
    · rw [List.foldl_nil] at hv ⊢
      exact described_t k service zone address hk (by rw [hv]; rfl)
    have origin := Store.foldl_heldAfter_cases hv
    have zone_t : ZoneHeld ks t service zone := by
      rcases origin with before | ⟨b, hmem, -⟩
      · exact described_t k service zone address hk (by rw [before]; rfl)
      · rcases (hw t swept).puts k service zone address hk v b hmem with hz' | hk'
        · exact hz'
        · exact described_t k service zone address hk hk'
    by_cases hdel : WriteOp.delete (ks.descriptorKey service zone) ∈ c.writesAt t
    · obtain ⟨gone, unput⟩ := (hw t swept).deletes service zone hdel k address hk
      rcases origin with before | ⟨b, hmem, -⟩
      · rw [gone] at before
        cases before
      · exact absurd hmem (unput v b)
    · exact Store.foldl_heldAfter_isSome hdel zone_t
  · exact h.unleased.apply h.consistent hcall.putsDetached

/-- A descriptor key that is held stays held through a registry call that does not delete it. -/
theorem ZoneHeld.apply {c : Store.Call} {service zone : String} (h : RegistryKeys ks s)
    (hz : ks.decode (ks.descriptorKey service zone) = some ⟨service, zone, .descriptor⟩)
    (hkeep : ∀ t, .delete (ks.descriptorKey service zone) ∉ c.writesAt t)
    (held : ZoneHeld ks s service zone) : ZoneHeld ks (c.apply s) service zone := by
  obtain ⟨t, swept, ops, hops, heq⟩ := Store.Call.held_apply h.consistent c
  have held_t := held.sweep hz h.unleased swept
  unfold ZoneHeld at held_t ⊢
  rw [heq]
  rcases hops with rfl | rfl
  · exact held_t
  · exact Store.foldl_heldAfter_isSome (hkeep t) held_t

end

end ControlPlane
