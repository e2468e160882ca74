import ControlPlane.Proofs.Plane.Refusal
import ControlPlane.Proofs.Registry.Endpoints
import ControlPlane.Registry.Discover

/-!
# Registry calls refuse before they write

Every call of the registry checks its request before its first store call: the address, the
service and zone names, the time to live, the kinds of the descriptors. After those checks a
call fails only for what it meets, a store error, a closed index, a descriptor registered with
other content, a missing endpoint: so a refusal leaves the plane untouched but for its counters
(`plugAll_refuses`, `unplug_refuses`, `update_refuses`, `query_refuses`, ...).

Deleting a service is the one call that refuses after reading: it reads the keys under the
service and refuses when one of them is not a descriptor key, that is when an endpoint is
still plugged. Its reads only sweep, and a read at the same clock after the first sweeps
nothing more, so its refusal leaves the plane as the sweep left it
(`deleteService_refuses`).
-/

namespace ControlPlane

open ControlPlane.Action

/-! ## Calls that never refuse -/

theorem renewLease_never (id : LeaseId) : FailsWith Error.NotRefusal (renewLease id) :=
  .onStore fun e => Error.notRefusal_ofStore e _

theorem revokeLease_never (id : LeaseId) : FailsWith Error.NotRefusal (revokeLease id) :=
  .bind (.onStore fun e => Error.notRefusal_ofStore e _) fun _ => .modify _

theorem releaseLease_never (id : LeaseId) : FailsWith Error.NotRefusal (releaseLease id) :=
  .tryCatch (revokeLease_never id) fun _ _ => .pure _

theorem grantLease_never {ttl : Int} (h : Lease.checkTtl ttl = .ok ()) :
    FailsWith Error.NotRefusal (grantLease ttl) :=
  .bind (.ofExcept fun _ he => nomatch h.symm.trans he) fun _ =>
    .bind (.onStore fun e => Error.notRefusal_ofStore e _) fun g => .bind (.modify _) fun _ => .pure g

/-- Registering a descriptor fails for a store error, a damaged or different stored descriptor,
or too many lost races: never for the request. -/
theorem ensureDescriptor_go_never (d : Descriptor) :
    ∀ n, FailsWith Error.NotRefusal (ensureDescriptor.go d n)
  | 0 => .throw rfl
  | n + 1 => by
    unfold ensureDescriptor.go
    refine .get_bind fun _ => .bind (.onStore fun e => Error.notRefusal_ofStore e _)
      fun ⟨created, _⟩ => ?_
    refine .ite (fun _ => .pure _) fun _ => ?_
    refine .bind (.onStore fun e => Error.notRefusal_ofStore e _) fun ⟨kv, _⟩ => ?_
    cases kv with
    | none => exact ensureDescriptor_go_never d n
    | some kv =>
      dsimp only
      split
      · exact .throw rfl
      · exact .ite (fun _ => .pure _) fun _ => .throw rfl

theorem writeRegistration_never (descs : List Descriptor) (address value : String)
    (lease : LeaseId) : FailsWith Error.NotRefusal (writeRegistration descs address value lease) := by
  unfold writeRegistration
  refine .bind (.forM fun d _ => ensureDescriptor_go_never d maxAttempts) fun _ => ?_
  refine .bind (.onIndexWrite fun _ _ h => Index.upsert_notRefusal h) fun _ => ?_
  refine .get_bind fun _ => .bind (.forM fun _ _ => ?_) fun _ =>
    .onIndexWrite fun _ _ h => Index.markVerified_notRefusal h
  exact .bind (.onStore fun e => Error.notRefusal_ofStore e _) fun _ => .pure _

/-! ## Plug, unplug, update -/

/-- A plug refuses only in its checks, before any call. -/
theorem plugAll_refuses (p : Plane) (descs : List Descriptor) (e : Endpoint) (ttl : Int)
    (lease : LeaseId) : Refuses (Untouched p) p (plugAll descs e ttl lease) := by
  unfold plugAll
  refine .recorded (fun _ m h => h.count m) (.get_bind (.check_bind (.refl p) fun _ => ?_))
  extract_lets value checked
  -- after the checks nothing refuses: the lease calls and the registration fail in the store
  -- or the index, and the handler releases a fresh lease and fails the same way
  have hchecked : ∀ u, Refuses (Untouched p) p (checked u) := by
    intro u
    refine .check_bind (.refl p) fun httl => .ofExcept_bind (.refl p) fun ds _ => .of_failsWith ?_
    extract_lets registered
    have hregistered : ∀ x, FailsWith Error.NotRefusal (registered x) := by
      rintro ⟨grant, fresh⟩
      refine .tryCatch (.bind (writeRegistration_never _ _ _ _) fun _ => .pure _) fun _ blameless => ?_
      extract_lets rethrow
      exact .ite (fun _ => .bind (releaseLease_never _) fun _ => .throw blameless) fun _ =>
        .throw blameless
    exact .ite (fun _ => .bind (renewLease_never lease) fun _ => .bind (.pure _) hregistered)
      fun _ => .ite (fun _ => .bind (grantLease_never httl) fun _ => .bind (.pure _) hregistered)
        fun _ => .bind (.pure _) hregistered
  exact .ite (fun _ => .throw_bind (.refl p)) fun _ => hchecked ()

theorem plug_refuses (p : Plane) (d : Descriptor) (e : Endpoint) (ttl : Int) (lease : LeaseId) :
    Refuses (Untouched p) p (plug d e ttl lease) :=
  plugAll_refuses p [d] e ttl lease

/-- An unplug refuses only in its checks, before it deletes the endpoint key. -/
theorem unplug_refuses (p : Plane) (service zone address : String) :
    Refuses (Untouched p) p (unplug service zone address) := by
  unfold unplug
  refine .recorded (fun _ m h => h.count m)
    (.check_bind (.refl p) fun _ => .get_bind (.check_bind (.refl p) fun _ => .of_failsWith ?_))
  refine .bind (.onStore fun e => Error.notRefusal_ofStore e _) fun ⟨deleted, _⟩ => ?_
  dsimp only
  refine .ite (fun _ => .pure _) fun _ => ?_
  refine .bind (.onStore fun e => Error.notRefusal_ofStore e _) fun _ => ?_
  exact .ite (fun _ => .bind (.onIndex fun _ _ h => Index.softDelete_notRefusal h) fun _ => .pure _)
    fun _ => .pure _

theorem update_refuses (p : Plane) (service zone address : String) (endpoint : Endpoint) :
    Refuses (Untouched p) p (update service zone address endpoint) := by
  unfold update
  refine .recorded (fun _ m h => h.count m) (.check_bind (.refl p) fun _ =>
    .get_bind (.check_bind (.refl p) fun _ => .ofExcept_bind (.refl p) fun _ _ => .of_failsWith ?_))
  refine .bind (.onStore fun e => Error.notRefusal_ofStore e _) fun ⟨ok, _⟩ => ?_
  dsimp only
  exact .ite (fun _ => .bind (.throw rfl) fun _ => .pure _) fun _ => .pure _

theorem grantLease_refuses (p : Plane) (ttl : Int) :
    Refuses (Untouched p) p (grantLease ttl) := by
  cases h : Lease.checkTtl ttl with
  | ok u => exact .of_failsWith (grantLease_never h)
  | error e =>
    unfold grantLease
    exact .check_bind (.refl p) fun h' => nomatch h.symm.trans h'

/-! ## Deleting a service -/

/-- An attempt at deleting a service from a consistent plane refuses only after its read:
when a key it read is no descriptor key. A failed transaction writes nothing on the swept
store, so the next attempt reads the same store. -/
theorem deleteService_attempt_refuses {service start : String} {zone : Option String}
    {ks : KeySpace} :
    ∀ n {p : Plane}, p.store.Consistent →
      Refuses (Refused p) p (deleteService.attempt service zone ks start n)
  | 0, p, _ => .throw (.refl p)
  | n + 1, p, hc => by
    unfold deleteService.attempt
    refine .read_bind hc fun _ => .ofExcept_bind (.refl _) fun w hw => ?_
    have rest : Store.AtRest p.swept.clock p.swept.store := Store.AtRest.get hc ""
    have hc' : p.swept.store.Consistent := hc.expire.publish
    obtain ⟨-, rfl⟩ := descriptorDeletes_eq_ok.1 hw
    refine .ite (fun _ => .of_failsWith (.bind (.onIndex fun _ _ h => Index.softDelete_notRefusal h)
      fun _ => .pure _)) fun _ => ?_
    refine .bind (.of_failsWith (.onStore fun e => Error.notRefusal_ofStore e _))
      fun ⟨ok, _⟩ q run => ?_
    cases ok with
    | true =>
      exact .inr (.ite (fun _ => .bind (.onIndex fun _ _ h => Index.softDelete_notRefusal h)
        fun _ => .pure _) fun no => absurd rfl no)
    | false =>
      -- the conditions failed on the swept store, and the empty failure branch wrote nothing
      obtain ⟨answered, rfl⟩ := onStore_eq_ok run
      have failed := (Store.txn_held hc' answered).1
      rw [Store.expire_atRest rest] at failed
      have unchanged := Store.txn_atRest rest (by rw [← failed]; rfl)
      refine .inl ⟨?_, .ite (fun yes => nomatch yes) fun _ => deleteService_attempt_refuses n hc'⟩
      rw [unchanged]

/-- Deleting a service refuses in its checks, or after its read when an endpoint is still
plugged under the service: then it leaves the plane as the read's sweep left it. -/
theorem deleteService_refuses {p : Plane} (hc : p.store.Consistent) (service : String)
    (zone : Option String) : Refuses (Refused p) p (deleteService service zone) := by
  unfold deleteService
  refine .recorded (fun _ m h => h.count m) (.check_bind (.refl p) fun _ => ?_)
  extract_lets scan
  have hscan : ∀ u, Refuses (Refused p) p (scan u) :=
    fun _ => .get_bind (deleteService_attempt_refuses maxAttempts hc)
  cases zone with
  | none => exact hscan ()
  | some z => exact .check_bind (.refl p) fun _ => hscan ()

/-! ## Reading the registry -/

theorem Resolver.resolve_notRefusal {r : Resolver} {key value : String} {client : Option IpAddr}
    {e : Error} (h : r.resolve key value client = .error e) : e.NotRefusal := by
  unfold Resolver.resolve Resolver.decode at h
  split at h
  · cases h
  · cases h
    rfl

variable {ks : KeySpace} {resolver : Resolver} {service : String} {client : Option IpAddr}

/-- Taking an entry into a snapshot fails only on a damaged descriptor or endpoint value. -/
theorem Gathered.add_notRefusal {g : Gathered} {kv : KeyValue} {e : Error}
    (h : Gathered.add ks resolver service client g kv = .error e) : e.NotRefusal := by
  unfold Gathered.add at h
  split at h
  · cases h
  · split at h
    · cases h
    · split at h
      · split at h
        · cases h
        · cases h
          rfl
      · cases hr : resolver.resolve kv.key kv.value client with
        | error e' =>
          rw [hr] at h
          cases h
          exact Resolver.resolve_notRefusal hr
        | ok ep =>
          rw [hr] at h
          cases h

theorem foldlM_add_notRefusal {e : Error} :
    ∀ (kvs : List KeyValue) (g : Gathered),
      kvs.foldlM (Gathered.add ks resolver service client) g = .error e → e.NotRefusal
  | [], _, h => nomatch h
  | kv :: kvs, g, h => by
    rw [List.foldlM_cons] at h
    cases hg : Gathered.add ks resolver service client g kv with
    | error e' =>
      rw [hg] at h
      cases h
      exact Gathered.add_notRefusal hg
    | ok g' =>
      rw [hg] at h
      exact foldlM_add_notRefusal kvs g' h

theorem assembleSnapshot_notRefusal {kvs : List KeyValue} {e : Error}
    (h : assembleSnapshot ks resolver service client kvs = .error e) : e.NotRefusal := by
  unfold assembleSnapshot at h
  cases hg : kvs.foldlM (Gathered.add ks resolver service client) {} with
  | error e' =>
    rw [hg] at h
    cases h
    exact foldlM_add_notRefusal kvs {} hg
  | ok g =>
    rw [hg] at h
    cases h

theorem snapshot_refuses (p : Plane) (zone : Option String) :
    Refuses (Untouched p) p (snapshot service zone client) := by
  unfold snapshot
  refine .get_bind (.ofExcept_bind (.refl p) fun _ _ => .of_failsWith ?_)
  refine .bind (.onStore fun e => Error.notRefusal_ofStore e _) fun _ => ?_
  refine .ite (fun _ => .bind (.throw rfl) fun _ => ?_) fun _ => ?_ <;>
    exact .bind (.ofExcept fun _ h => assembleSnapshot_notRefusal h) fun _ => .pure _

theorem query_refuses (p : Plane) (zone : Option String) :
    Refuses (Untouched p) p (query service zone client) :=
  .recorded (fun _ m h => h.count m) (snapshot_refuses p zone)

theorem queryZones_refuses (p : Plane) : Refuses (Untouched p) p (queryZones service) := by
  unfold queryZones
  refine .recorded (fun _ m h => h.count m)
    (.get_bind (.ofExcept_bind (.refl p) fun _ _ => .of_failsWith ?_))
  refine .bind (.onStore fun e => Error.notRefusal_ofStore e _) fun _ => ?_
  exact .ite (fun _ => .bind (.throw rfl) fun _ => .pure _) fun _ => .pure _

theorem searchServices_refuses (p : Plane) (text : String) (skip limit : Int) :
    Refuses (Untouched p) p (searchServices text skip limit) :=
  .recorded (fun _ m h => h.count m) (.onIndexRead (.refl p))

end ControlPlane
