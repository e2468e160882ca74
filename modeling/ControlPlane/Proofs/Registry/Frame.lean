import ControlPlane.Proofs.Registry.Endpoints
import ControlPlane.Proofs.Plane.Triple

/-!
# What registry operations leave alone

Apart from a plug, which creates descriptor keys and writes index rows, the registry's
operations touch the plane in few ways: their store calls put no descriptor key, their index
calls soft-delete rows, and they count. A property of planes that such calls keep on a
consistent store, and that soft deletions and counting keep (`KeptByRegistry`), is kept by each
of these operations, run to its end whether it succeeds or fails (`unplug_frame`,
`update_frame`, `keepAlive_frame`, `deleteService_frame`).
-/

namespace ControlPlane

open ControlPlane.Action

/-- A list of writes puts no descriptor key. -/
def PutsNoDescriptor (ks : KeySpace) (ops : List WriteOp) : Prop :=
  ∀ k service zone, ks.decode k = some ⟨service, zone, .descriptor⟩ → ∀ v b, .put k v b ∉ ops

/-- A property of planes of keyspace `ks` that store calls putting no descriptor key keep on a
consistent store, and that soft deletions of index rows and counting keep. -/
structure KeptByRegistry (ks : KeySpace) (E : Plane → Prop) : Prop where
  call : ∀ p (c : Store.Call), p.store.Consistent → (∀ t, PutsNoDescriptor ks (c.writesAt t)) →
    E p → E { p with store := c.apply p.store }
  softDelete : ∀ p service zone n ix, p.index.softDelete service zone = .ok (n, ix) → E p →
    E { p with index := ix }
  count : ∀ p m, E p → E { p with metrics := m }

/-- A plane of keyspace `ks` with a consistent store, in `E`. -/
def Framed (ks : KeySpace) (E : Plane → Prop) (p : Plane) : Prop :=
  p.keyspace = ks ∧ p.store.Consistent ∧ E p

section

variable {ks : KeySpace} {policy : AddressPolicy} {E : Plane → Prop} {α : Type}

/-! ## Writes that put no descriptor key -/

theorem putsNoDescriptor_nil : PutsNoDescriptor ks [] := nofun

theorem PutsNoDescriptor.ite {c : Prop} [Decidable c] {a b : List WriteOp}
    (ha : PutsNoDescriptor ks a) (hb : PutsNoDescriptor ks b) :
    PutsNoDescriptor ks (if c then a else b) :=
  iteInduction (motive := PutsNoDescriptor ks) (fun _ => ha) fun _ => hb

theorem putsNoDescriptor_of_forall_delete {ops : List WriteOp}
    (h : ∀ op ∈ ops, ∃ k, op = .delete k) : PutsNoDescriptor ks ops := by
  intro k service zone _ v b hmem
  obtain ⟨_, heq⟩ := h _ hmem
  cases heq

theorem putsNoDescriptor_endpoint {service zone address v : String} {b : LeaseBinding}
    (hz : checkServiceZone service zone = .ok ()) (ha : policy.check address = .ok ()) :
    PutsNoDescriptor ks [.put (ks.nodeKey service zone address) v b] := by
  intro k service' zone' hk v' b' hmem
  obtain ⟨rfl, -, -⟩ : k = ks.nodeKey service zone address ∧ v' = v ∧ b' = b := by
    simpa using hmem
  rw [ks.decode_nodeKey hz ha] at hk
  cases hk

/-! ## The steps of an operation -/

theorem Framed.count (hE : KeptByRegistry ks E) {p : Plane} (h : Framed ks E p) (m : Metrics) :
    Framed ks E { p with metrics := m } :=
  ⟨h.1, h.2.1, hE.count p m h.2.2⟩

theorem Framed.onStore (hE : KeptByRegistry ks E) {call : Store → Nat → Except StoreError α × Store}
    {ctx : String} {c : Nat → Store.Call} (hc : ∀ s now, (call s now).2 = (c now).apply s)
    (hput : ∀ now t, PutsNoDescriptor ks ((c now).writesAt t)) :
    Triple (Framed ks E) (ControlPlane.onStore call ctx) (fun _ => Framed ks E) (Framed ks E) := by
  refine Triple.onStore fun p ⟨hks, consistent, he⟩ => outcome_of_snd ?_
  show Framed ks E { p with store := (call p.store p.clock).2 }
  rw [hc]
  exact ⟨hks, consistent.apply _, hE.call p _ consistent (hput p.clock) he⟩

theorem Framed.softDelete (hE : KeptByRegistry ks E) {service : String} {zone : Option String} :
    Triple (Framed ks E) (onIndex (·.softDelete service zone)) (fun _ => Framed ks E)
      (Framed ks E) :=
  .onIndex (fun p _ _ ⟨hks, consistent, he⟩ hok => ⟨hks, consistent, hE.softDelete p _ _ _ _ hok he⟩)
    fun _ _ h _ => h

/-! ## The operations -/

/-- Unplugging deletes an endpoint key, reads, and may soft-delete the zone's rows. -/
theorem unplug_frame (hE : KeptByRegistry ks E) (service zone address : String) :
    Triple (Framed ks E) (unplug service zone address) (fun _ => Framed ks E) (Framed ks E) := by
  unfold unplug
  refine .recorded ?_ (fun _ _ m h => h.count hE m) (fun _ m h => h.count hE m)
  refine .check_bind (fun _ => ?_) (fun _ h => h)
  refine .get_bind fun p₀ => .check_bind (fun _ => ?_) (fun _ h => h.1)
  refine .bind (fun _ => Framed ks E) ((Framed.onStore hE (c := fun now => .delete now _)
      (fun _ _ => rfl) fun _ _ => putsNoDescriptor_of_forall_delete (by simp [Store.Call.writesAt])).conseq
    (fun _ h => h.1) (fun _ _ h => h) fun _ h => h) fun ⟨deleted, _⟩ => ?_
  dsimp only
  refine .ite (fun _ => .pure fun _ h => h) fun _ => ?_
  refine .bind (fun _ => Framed ks E) (Framed.onStore hE (c := fun now => .read now _)
    (fun _ _ => rfl) fun _ _ => putsNoDescriptor_nil) fun _ => ?_
  exact .ite (fun _ => .bind (fun _ => Framed ks E) (Framed.softDelete hE) fun _ =>
    .pure fun _ h => h) fun _ => .pure fun _ h => h

/-- An update rewrites one endpoint key of a checked zone and address. -/
theorem update_frame (hE : KeptByRegistry ks E) (service zone address : String)
    (endpoint : Endpoint) :
    Triple (Framed ks E) (update service zone address endpoint) (fun _ => Framed ks E)
      (Framed ks E) := by
  unfold update
  refine .recorded ?_ (fun _ _ m h => h.count hE m) (fun _ m h => h.count hE m)
  refine .check_bind (fun hz => ?_) (fun _ h => h)
  refine .get_bind fun p₀ => .assume fun p ⟨⟨hks, _⟩, hp⟩ => ?_
  subst hp hks
  refine .check_bind (fun ha => ?_) (fun _ h => h.1)
  refine .ofExcept_bind (fun e _ => ?_) (fun _ h => h.1)
  refine .bind (fun _ => Framed p.keyspace E) ((Framed.onStore hE (c := fun now => .txn now _)
      (fun _ _ => rfl) fun _ _ => .ite (putsNoDescriptor_endpoint hz ha) putsNoDescriptor_nil).conseq
    (fun _ h => h.1) (fun _ _ h => h) fun _ h => h) fun ⟨ok, _⟩ => ?_
  dsimp only
  exact .ite (fun _ => .throw_bind fun _ h => h) fun _ => .pure fun _ h => h

theorem keepAlive_frame (hE : KeptByRegistry ks E) (id : LeaseId) :
    Triple (Framed ks E) (keepAlive id) (fun _ => Framed ks E) (Framed ks E) :=
  .recorded (Framed.onStore hE (c := fun now => .keepAlive now id) (fun _ _ => rfl)
    fun _ _ => putsNoDescriptor_nil) (fun _ _ m h => h.count hE m) (fun _ m h => h.count hE m)

/-- One attempt at deleting a service: a read, then deletes of descriptor keys only. -/
theorem deleteService_attempt_frame (hE : KeptByRegistry ks E) {service start : String}
    {zone : Option String} {ks' : KeySpace} :
    ∀ n, Triple (Framed ks E) (deleteService.attempt service zone ks' start n)
      (fun _ => Framed ks E) (Framed ks E)
  | 0 => .throw fun _ h => h
  | n + 1 => by
    unfold deleteService.attempt
    refine .bind _ (Framed.onStore hE (c := fun now => .read now _) (fun _ _ => rfl)
      fun _ _ => putsNoDescriptor_nil) fun _ => ?_
    refine .ofExcept_bind (fun w hw => ?_) (fun _ h => h)
    obtain ⟨-, rfl⟩ := descriptorDeletes_eq_ok.1 hw
    refine .ite (fun _ => .bind (fun _ => Framed ks E) (Framed.softDelete hE) fun _ =>
      .pure fun _ h => h) fun _ => ?_
    refine .bind (fun _ => Framed ks E) (Framed.onStore hE (c := fun now => .txn now _)
      (fun _ _ => rfl) fun _ _ => .ite (putsNoDescriptor_of_forall_delete (by simp))
        putsNoDescriptor_nil) fun ⟨ok, _⟩ => ?_
    exact .ite (fun _ => .bind (fun _ => Framed ks E) (Framed.softDelete hE) fun _ =>
      .pure fun _ h => h) fun _ => deleteService_attempt_frame hE n

theorem deleteService_frame (hE : KeptByRegistry ks E) (service : String) (zone : Option String) :
    Triple (Framed ks E) (deleteService service zone) (fun _ => Framed ks E) (Framed ks E) := by
  unfold deleteService
  refine .recorded ?_ (fun _ _ m h => h.count hE m) (fun _ m h => h.count hE m)
  refine .check_bind (fun _ => ?_) (fun _ h => h)
  extract_lets scan
  have hscan : ∀ u, Triple (Framed ks E) (scan u) (fun _ => Framed ks E) (Framed ks E) :=
    fun _ => .get_bind fun _ => (deleteService_attempt_frame hE maxAttempts).conseq
      (fun _ h => h.1) (fun _ _ h => h) fun _ h => h
  cases zone with
  | none => exact hscan ()
  | some z => exact .check_bind (fun _ => hscan ()) fun _ h => h

end

end ControlPlane
