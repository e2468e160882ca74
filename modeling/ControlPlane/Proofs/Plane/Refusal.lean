import ControlPlane.Proofs.Plane.Triple
import ControlPlane.Proofs.Store.AtRest

/-!
# Refusals

A call refuses a request when it fails with a validation error: a name, an address or a
parameter of the request breaks the rules. A refusal is meant to come before the call changes
anything, so that the client may mend the request and call again. This module gives the words
to say so and the rules to prove it, one rule for each way of building an action, as for
triples.

* `Store.contents`: the entries, leases and revision of a store, what its readers can tell
  apart; its watch channels and its history are left out.
* `Kept p q`: `q` has the index and the store contents of `p`; `Refused p q`: `q` is kept
  from `p`, or from `p.swept`, the plane as a read at its clock leaves it.
* `Action.FailsWith P act`: every failure of `act`, from every plane, is with an error in `P`.
  Store calls fail with store errors and index calls with database errors, so neither ever
  refuses (`Error.notRefusal_ofStore`, `Index.upsert_notRefusal`, ...).
* `Action.Refuses R p act`: every refusal of `act` from `p` leaves a plane in `R`, most often
  `Untouched p` (the plane `p` with other counters) or `Refused p`. A check at the start of an
  action refuses where the action started (`Refuses.check_bind`), and an action that never
  refuses meets every `R` (`Refuses.of_failsWith`): so an operation that checks its request
  before its first call refuses untouched. A read sweeps, and reading again at the same clock
  sweeps nothing more (`Plane.swept_swept`): an action that starts with a read refuses as from
  where the read left the plane (`Refuses.read_bind`).
-/

namespace ControlPlane

/-- The entries, leases and revision of a store: what its readers can tell apart, its watch
channels and its history left out. -/
def Store.contents (s : Store) : List KeyValue × List LeaseRecord × Revision :=
  (s.entries, s.leases, s.revision)

namespace Store

variable {s : Store}

@[simp] theorem contents_publish : s.publish.contents = s.contents := rfl

@[simp] theorem contents_unwatch (sub : Subscription) : (s.unwatch sub).contents = s.contents :=
  rfl

@[simp] theorem contents_poll (sub : Subscription) : (s.poll sub).2.2.contents = s.contents := rfl

theorem contents_watch (now : Nat) (filter : KeyFilter) (start : Revision) :
    (s.watch now filter start).2.contents = (s.expire now).contents := rfl

end Store

/-- A plane with the index and the store contents of `p`: what a refusal leaves. -/
structure Kept (p q : Plane) : Prop where
  index : q.index = p.index
  contents : q.store.contents = p.store.contents

namespace Kept

variable {p q r : Plane}

theorem refl (p : Plane) : Kept p p := ⟨rfl, rfl⟩

theorem trans (h₁ : Kept p q) (h₂ : Kept q r) : Kept p r :=
  ⟨h₂.index.trans h₁.index, h₂.contents.trans h₁.contents⟩

theorem count (h : Kept p q) (m : Metrics) : Kept p { q with metrics := m } :=
  ⟨h.index, h.contents⟩

end Kept

/-- The plane `p` with other counters: what a call that refuses before its first call leaves. -/
def Untouched (p q : Plane) : Prop := ∃ m, q = { p with metrics := m }

namespace Untouched

variable {p q : Plane}

theorem refl (p : Plane) : Untouched p p := ⟨p.metrics, rfl⟩

theorem count (h : Untouched p q) (m : Metrics) : Untouched p { q with metrics := m } := by
  obtain ⟨_, rfl⟩ := h
  exact ⟨m, rfl⟩

theorem kept (h : Untouched p q) : Kept p q := by
  obtain ⟨_, rfl⟩ := h
  exact ⟨rfl, rfl⟩

end Untouched

/-- The plane as a read at its clock leaves it: the due leases swept, and what the sweep
committed sent. -/
def Plane.swept (p : Plane) : Plane := { p with store := (p.store.expire p.clock).publish }

theorem Plane.swept_swept {p : Plane} (hc : p.store.Consistent) : p.swept.swept = p.swept := by
  have rest : Store.AtRest p.clock (p.store.expire p.clock).publish := Store.AtRest.get hc ""
  unfold Plane.swept
  dsimp only
  rw [Store.expire_atRest rest, Store.publish_of_pending rest.pending]

/-- What a refusal may leave: the plane kept as it was, or as a read at its clock left it. -/
def Refused (p q : Plane) : Prop := Kept p q ∨ Kept p.swept q

namespace Refused

variable {p q : Plane}

theorem refl (p : Plane) : Refused p p := .inl (.refl p)

theorem count (h : Refused p q) (m : Metrics) : Refused p { q with metrics := m } :=
  h.imp (·.count m) (·.count m)

theorem of_untouched (h : Untouched p q) : Refused p q := .inl h.kept

theorem of_swept (hc : p.store.Consistent) (h : Refused p.swept q) : Refused p q := by
  rcases h with kept | kept
  · exact .inr kept
  · rw [Plane.swept_swept hc] at kept
    exact .inr kept

end Refused

/-- An error that is no refusal: it does not blame the request but the state the call met, a
store, an index or a conflict. -/
def Error.NotRefusal (e : Error) : Prop := e.kind.isValidation = false

/-- A failed store call is seen as a missing key, a deadline, a cancellation or a system
error: never as a refusal. -/
theorem Error.notRefusal_ofStore (e : StoreError) (context : String) :
    (Error.ofStore e context).NotRefusal := by
  unfold Error.ofStore NotRefusal
  split <;> rfl

/-! ## Index calls fail only with database errors -/

namespace Index

variable {ix : Index} {e : Error}

theorem ensureOpen_notRefusal {context : String} (h : ix.ensureOpen context = .error e) :
    e.NotRefusal := by
  unfold ensureOpen at h
  split at h
  · cases h
    rfl
  · cases h

theorem ensureAnswers_notRefusal {call : IndexCall} {context : String}
    (h : ix.ensureAnswers call context = .error e) : e.NotRefusal := by
  unfold ensureAnswers at h
  split at h
  · cases h
  · cases h
    rfl

/-- A computation that starts with a check of the database that never refuses, and cannot fail
after, fails only there. -/
theorem bind_check_notRefusal {α : Type} {c : Except Error Unit} {f : Unit → Except Error α}
    (hc : ∀ {e}, c = .error e → e.NotRefusal) (h : (c >>= f) = .error e)
    (hf : ∀ u, ∃ a, f u = .ok a) : e.NotRefusal := by
  cases hopen : c with
  | error e' =>
    rw [hopen] at h
    cases h
    exact hc hopen
  | ok u =>
    obtain ⟨a, ha⟩ := hf u
    rw [hopen] at h
    change f u = .error e at h
    rw [ha] at h
    cases h

theorem upsert_notRefusal {descs : List Descriptor} {verified : Bool}
    (h : ix.upsert descs verified = .error e) : e.NotRefusal := by
  unfold upsert at h
  split at h
  · cases h
  · exact bind_check_notRefusal ensureAnswers_notRefusal h fun _ => ⟨_, rfl⟩

theorem markVerified_notRefusal {descs : List Descriptor} (h : ix.markVerified descs = .error e) :
    e.NotRefusal := by
  unfold markVerified at h
  split at h
  · cases h
  · exact bind_check_notRefusal ensureAnswers_notRefusal h fun _ => ⟨_, rfl⟩

theorem softDelete_notRefusal {service : String} {zone : Option String}
    (h : ix.softDelete service zone = .error e) : e.NotRefusal := by
  unfold softDelete at h
  exact bind_check_notRefusal ensureAnswers_notRefusal h fun _ => ⟨_, rfl⟩

theorem recordObserved_notRefusal {appId : Int} {node name : String} {version : Int}
    (h : ix.recordObserved appId node name version = .error e) : e.NotRefusal := by
  unfold recordObserved at h
  split at h
  · cases h
  · exact bind_check_notRefusal ensureOpen_notRefusal h fun _ => ⟨_, rfl⟩

theorem recordPut_notRefusal {c : ConfigChange} (h : ix.recordPut c = .error e) : e.NotRefusal := by
  unfold recordPut at h
  exact bind_check_notRefusal ensureOpen_notRefusal h fun _ => ⟨_, rfl⟩

theorem markDeleted_notRefusal {name : String} (h : ix.markDeleted name = .error e) :
    e.NotRefusal := by
  unfold markDeleted at h
  exact bind_check_notRefusal ensureOpen_notRefusal h fun _ => ⟨_, rfl⟩

end Index

namespace Action

variable {α β : Type}

/-- Every failure of the action, from every plane, is with an error in `P`. -/
def FailsWith (P : Error → Prop) (act : Action α) : Prop :=
  ∀ p e q, act.exec p = (.error e, q) → P e

/-- Every refusal of the action from `p` leaves a plane in `R`. -/
def Refuses (R : Plane → Prop) (p : Plane) (act : Action α) : Prop :=
  ∀ e q, act.exec p = (.error e, q) → e.kind.isValidation = true → R q

/-- A store call that answered: its answer, and the plane it left. -/
theorem onStore_eq_ok {call : Store → Nat → Except StoreError α × Store} {ctx : String}
    {p q : Plane} {a : α} (h : (onStore call ctx).exec p = (.ok a, q)) :
    (call p.store p.clock).1 = .ok a ∧ q = { p with store := (call p.store p.clock).2 } := by
  rw [exec_onStore] at h
  rcases hc : call p.store p.clock with ⟨_ | a', s⟩
  · rw [hc] at h
    cases h
  · rw [hc] at h
    cases h
    exact ⟨rfl, rfl⟩

/-! ## Rules for failures -/

namespace FailsWith

variable {P : Error → Prop}

theorem pure (a : α) : FailsWith P (Pure.pure a : Action α) := by
  intro p e q run
  rw [exec_pure] at run
  cases run

theorem throw {e : Error} (h : P e) : FailsWith P (MonadExcept.throw e : Action α) := by
  intro p e' q run
  rw [exec_throw] at run
  cases run
  exact h

theorem ofExcept {r : Except Error α} (h : ∀ e, r = .error e → P e) :
    FailsWith P (MonadExcept.ofExcept r : Action α) := by
  intro p e q run
  rw [exec_ofExcept] at run
  cases r with
  | error e' =>
    cases run
    exact h _ rfl
  | ok a => cases run

theorem modify (g : Plane → Plane) : FailsWith P (modify g : Action Unit) := by
  intro p e q run
  rw [exec_modify] at run
  cases run

theorem bind {x : Action α} {f : α → Action β} (hx : FailsWith P x) (hf : ∀ a, FailsWith P (f a)) :
    FailsWith P (x >>= f) := by
  intro p e q run
  rw [exec_bind] at run
  rcases hrun : x.exec p with ⟨_ | a, p'⟩
  · rw [hrun] at run
    cases run
    exact hx p _ _ hrun
  · rw [hrun] at run
    exact hf a p' e q run

theorem get_bind {f : Plane → Action α} (hf : ∀ p, FailsWith P (f p)) : FailsWith P (get >>= f) := by
  intro p e q run
  rw [exec_get_bind] at run
  exact hf p p e q run

theorem ite {c : Prop} [Decidable c] {t e : Action α} (ht : c → FailsWith P t)
    (he : ¬ c → FailsWith P e) : FailsWith P (if c then t else e) :=
  iteInduction (motive := fun a => FailsWith P a) ht he

/-- A handler that only sees errors in `P` keeps every failure in `P`. -/
theorem tryCatch {x : Action α} {h : Error → Action α} (hx : FailsWith P x)
    (hh : ∀ e, P e → FailsWith P (h e)) : FailsWith P (MonadExcept.tryCatch x h) := by
  intro p e q run
  rw [exec_tryCatch] at run
  rcases hrun : x.exec p with ⟨_ | a, p'⟩
  · rw [hrun] at run
    exact hh _ (hx p _ _ hrun) p' e q run
  · rw [hrun] at run
    cases run

theorem onStore {call : Store → Nat → Except StoreError α × Store} {ctx : String}
    (h : ∀ e, P (Error.ofStore e ctx)) : FailsWith P (ControlPlane.onStore call ctx) := by
  intro p e q run
  rw [exec_onStore] at run
  rcases hc : call p.store p.clock with ⟨_ | a, s⟩
  · rw [hc] at run
    cases run
    exact h _
  · rw [hc] at run
    cases run

theorem onIndex {call : Index → Except Error (α × Index)} (h : ∀ ix e, call ix = .error e → P e) :
    FailsWith P (ControlPlane.onIndex call) := by
  intro p e q run
  rw [exec_onIndex] at run
  rcases hc : call p.index with _ | ⟨a, ix⟩
  · rw [hc] at run
    cases run
    exact h _ _ hc
  · rw [hc] at run
    cases run

theorem onIndexWrite {call : Index → Except Error Index} (h : ∀ ix e, call ix = .error e → P e) :
    FailsWith P (ControlPlane.onIndexWrite call) :=
  onIndex fun ix e hc => by
    cases hcall : call ix with
    | error e' =>
      rw [hcall] at hc
      cases hc
      exact h ix _ hcall
    | ok ix' =>
      rw [hcall] at hc
      cases hc

theorem recorded {o : Operation} {act : Action α} (h : FailsWith P act) :
    FailsWith P (ControlPlane.recorded o act) := by
  intro p e q run
  rw [exec_recorded] at run
  rcases hrun : act.exec p with ⟨_ | a, p'⟩
  · rw [hrun] at run
    cases run
    exact h p _ _ hrun
  · rw [hrun] at run
    cases run

theorem forM {l : List β} {f : β → Action PUnit} (h : ∀ b ∈ l, FailsWith P (f b)) :
    FailsWith P (l.forM f) := by
  induction l with
  | nil => exact pure _
  | cons b l ih =>
    exact bind (h b List.mem_cons_self) fun _ => ih fun b' hb => h b' (List.mem_cons_of_mem _ hb)

end FailsWith

/-! ## Rules for refusals -/

namespace Refuses

variable {R : Plane → Prop} {p : Plane}

theorem of_failsWith {act : Action α} (h : FailsWith Error.NotRefusal act) : Refuses R p act := by
  intro e q run refusal
  have never : e.kind.isValidation = false := h p e q run
  rw [never] at refusal
  cases refusal

theorem mono {R' : Plane → Prop} {act : Action α} (h : Refuses R p act) (hR : ∀ q, R q → R' q) :
    Refuses R' p act :=
  fun e q run refusal => hR q (h e q run refusal)

theorem throw {e : Error} (hp : R p) : Refuses R p (MonadExcept.throw e : Action α) := by
  intro _ _ run _
  rw [exec_throw] at run
  cases run
  exact hp

theorem throw_bind {e : Error} {f : α → Action β} (hp : R p) :
    Refuses R p (MonadExcept.throw e >>= f) := by
  intro _ _ run _
  rw [exec_bind, exec_throw] at run
  cases run
  exact hp

/-- A failed check refuses where the action started. -/
theorem check_bind {r : Except Error Unit} {f : Unit → Action α} (hp : R p)
    (hf : r = .ok () → Refuses R p (f ())) : Refuses R p (ControlPlane.check r >>= f) := by
  intro e q run refusal
  rw [exec_bind, ControlPlane.check, exec_ofExcept] at run
  cases r with
  | error e' =>
    cases run
    exact hp
  | ok u => exact hf rfl e q run refusal

theorem ofExcept_bind {r : Except Error α} {f : α → Action β} (hp : R p)
    (hf : ∀ a, r = .ok a → Refuses R p (f a)) : Refuses R p (MonadExcept.ofExcept r >>= f) := by
  intro e q run refusal
  rw [exec_bind, exec_ofExcept] at run
  cases r with
  | error e' =>
    cases run
    exact hp
  | ok a => exact hf a rfl e q run refusal

theorem get_bind {f : Plane → Action α} (hf : Refuses R p (f p)) : Refuses R p (get >>= f) := by
  intro e q run
  rw [exec_get_bind] at run
  exact hf e q run

theorem ite {c : Prop} [Decidable c] {t e : Action α} (ht : c → Refuses R p t)
    (he : ¬ c → Refuses R p e) : Refuses R p (if c then t else e) :=
  iteInduction (motive := fun a => Refuses R p a) ht he

theorem pure_bind {a : α} {f : α → Action β} (h : Refuses R p (f a)) :
    Refuses R p (Pure.pure a >>= f) := by
  intro e q run
  rw [exec_bind, exec_pure] at run
  exact h e q run

/-- A handler that throws again what it caught, or what is no refusal, refuses where the
action did. -/
theorem tryCatch {x : Action α} {h : Error → Action α} (hx : Refuses R p x)
    (hh : ∀ e q e' q', (h e).exec q = (.error e', q') → e'.kind.isValidation = true →
      e' = e ∧ q' = q) :
    Refuses R p (MonadExcept.tryCatch x h) := by
  intro e q run refusal
  rw [exec_tryCatch] at run
  rcases hrun : x.exec p with ⟨_ | a, p'⟩
  · rw [hrun] at run
    obtain ⟨rfl, rfl⟩ := hh _ _ _ _ run refusal
    exact hx _ _ hrun refusal
  · rw [hrun] at run
    cases run

/-- An action followed by a rest: the rest refuses as from where the action started, when the
action left the plane as it was, and never refuses otherwise. -/
theorem bind {x : Action α} {f : α → Action β} (hx : Refuses R p x)
    (hf : ∀ a q, x.exec p = (.ok a, q) → q = p ∧ Refuses R p (f a) ∨ FailsWith Error.NotRefusal (f a)) :
    Refuses R p (x >>= f) := by
  intro e q run refusal
  rw [exec_bind] at run
  rcases hrun : x.exec p with ⟨_ | a, p'⟩
  · rw [hrun] at run
    cases run
    exact hx _ _ hrun refusal
  · rw [hrun] at run
    rcases hf a p' hrun with ⟨rfl, rest⟩ | never
    · exact rest e q run refusal
    · have blameless : e.kind.isValidation = false := never p' e q run
      rw [blameless] at refusal
      cases refusal

theorem read_bind (hc : p.store.Consistent) {r : RangeRequest} {ctx : String}
    {f : RangeResult → Action α} (hf : ∀ a, Refuses (Refused p.swept) p.swept (f a)) :
    Refuses (Refused p) p (ControlPlane.onStore (fun s now => s.read now r) ctx >>= f) := by
  intro e q run refusal
  rw [exec_bind, exec_onStore, Store.read_eq] at run
  exact (hf _ e q run refusal).of_swept hc

theorem onIndexRead {call : Index → Except Error α} (hp : R p) :
    Refuses R p (ControlPlane.onIndexRead call) := by
  intro _ _ run _
  rw [exec_onIndexRead] at run
  obtain ⟨-, rfl⟩ := Prod.mk.inj run
  exact hp

/-- Counting a call keeps what its refusals leave, when that does not depend on the
counters. -/
theorem recorded {o : Operation} {act : Action α} (hR : ∀ q m, R q → R { q with metrics := m })
    (h : Refuses R p act) : Refuses R p (ControlPlane.recorded o act) := by
  intro e q run refusal
  rw [exec_recorded] at run
  rcases hrun : act.exec p with ⟨_ | a, p'⟩
  · rw [hrun] at run
    cases run
    exact hR _ _ (h _ _ hrun refusal)
  · rw [hrun] at run
    cases run

end Refuses

end Action

end ControlPlane
