import ControlPlane.Plane.Basic

/-!
# Triples for plane actions

An action runs on a plane and either gives a result or fails, and leaves a plane in both cases.
`Action.Triple pre act post fail` says that from every plane in `pre` the action ends in `post`
when it gives a result and in `fail` when it fails. Failure is not the end of a run: what an
operation did before failing stays done, so `fail` is as much a part of the contract as `post`.

There is one equation for each way of building an action (`exec_bind`, `exec_onStore`, ...)
and one rule for each (`Triple.bind`, `Triple.onStore`, ...), so a proof about an operation
follows its text step by step.
-/

namespace ControlPlane

variable {α β : Type}

/-- The result of an action run from a plane, and the plane it leaves. -/
def Action.exec (act : Action α) (p : Plane) : Except Error α × Plane := act.run.run p

/-- An outcome meets `post` of its result and state when it succeeded, and `fail` of its state
when it failed. -/
def Action.Outcome {ε σ : Type} (post : α → σ → Prop) (fail : σ → Prop) : Except ε α × σ → Prop
  | (.ok a, s) => post a s
  | (.error _, s) => fail s

/-- From every plane in `pre`, the action ends in `post` when it succeeds and in `fail` when it
fails. -/
structure Action.Triple (pre : Plane → Prop) (act : Action α) (post : α → Plane → Prop)
    (fail : Plane → Prop) : Prop where
  run : ∀ p, pre p → Action.Outcome post fail (act.exec p)

theorem Action.outcome_of_snd {ε σ : Type} {P : σ → Prop} {o : Except ε α × σ} (h : P o.2) :
    Action.Outcome (fun _ => P) P o := by
  rcases o with ⟨_ | _, s⟩ <;> exact h

namespace Action

/-! ## Running the building blocks -/

theorem exec_pure (a : α) (p : Plane) : (pure a : Action α).exec p = (.ok a, p) := rfl

theorem exec_bind (x : Action α) (f : α → Action β) (p : Plane) :
    (x >>= f).exec p = match x.exec p with
      | (.ok a, p') => (f a).exec p'
      | (.error e, p') => (.error e, p') := by
  unfold Action.exec
  rw [ExceptT.run_bind]
  rcases h : x.run.run p with ⟨r, p'⟩
  cases r with
  | ok a =>
    simp only [StateT.run_bind, h]
    rfl
  | error e =>
    simp only [StateT.run_bind, h]
    rfl

theorem exec_throw (e : Error) (p : Plane) : (throw e : Action α).exec p = (.error e, p) := rfl

theorem exec_get (p : Plane) : (get : Action Plane).exec p = (.ok p, p) := rfl

theorem exec_get_bind (f : Plane → Action α) (p : Plane) : (get >>= f).exec p = (f p).exec p :=
  rfl

theorem exec_modify (g : Plane → Plane) (p : Plane) :
    (modify g : Action Unit).exec p = (.ok (), g p) := rfl

theorem exec_ofExcept (r : Except Error α) (p : Plane) :
    (MonadExcept.ofExcept r : Action α).exec p = (r, p) := by
  cases r <;> rfl

/-- A bind whose first action answers goes on with its answer. Rewriting with it, and not with
`exec_bind`, leaves no match on a run in the goal, which the kernel would otherwise compare with
the run by unfolding it. -/
theorem exec_bind_of_ok {x : Action α} {f : α → Action β} {p p' : Plane} {a : α}
    (h : x.exec p = (.ok a, p')) : (x >>= f).exec p = (f a).exec p' := by
  rw [exec_bind, h]

theorem exec_check_of_ok {r : Except Error Unit} (h : r = .ok ()) (p : Plane) :
    (check r).exec p = (.ok (), p) := by
  rw [check, exec_ofExcept, h]

theorem exec_check_bind_of_error {r : Except Error Unit} {e : Error} (h : r = .error e)
    (f : Unit → Action α) (p : Plane) : (check r >>= f).exec p = (.error e, p) := by
  rw [exec_bind, check, exec_ofExcept, h]

theorem exec_check_bind_of_ok {r : Except Error Unit} (h : r = .ok ()) (f : Unit → Action α)
    (p : Plane) : (check r >>= f).exec p = (f ()).exec p :=
  exec_bind_of_ok (exec_check_of_ok h p)

theorem exec_tryCatch (x : Action α) (h : Error → Action α) (p : Plane) :
    (tryCatch x h).exec p = match x.exec p with
      | (.ok a, p') => (.ok a, p')
      | (.error e, p') => (h e).exec p' := by
  unfold Action.exec
  show (ExceptT.tryCatch x h).run.run p = _
  rcases hx : x.run.run p with ⟨r, p'⟩
  simp only [ExceptT.tryCatch, ExceptT.run_mk, StateT.run_bind]
  erw [hx]
  cases r <;> rfl

/-- A store call runs at the plane's clock; its state is kept whether it succeeds or not. -/
theorem exec_onStore (call : Store → Nat → Except StoreError α × Store) (ctx : String)
    (p : Plane) :
    (onStore call ctx).exec p = match call p.store p.clock with
      | (.ok a, s) => (.ok a, { p with store := s })
      | (.error e, s) => (.error (Error.ofStore e ctx), { p with store := s }) := by
  unfold onStore
  rw [exec_get_bind]
  rcases call p.store p.clock with ⟨r, s⟩
  cases r <;> rfl

theorem exec_onStore_ok {call : Store → Nat → Except StoreError α × Store} {ctx : String}
    {p : Plane} {a : α} (h : (call p.store p.clock).1 = .ok a) :
    (onStore call ctx).exec p = (.ok a, { p with store := (call p.store p.clock).2 }) := by
  rw [exec_onStore]
  rcases hc : call p.store p.clock with ⟨r, s'⟩
  rw [hc] at h
  cases h
  rfl

theorem exec_onIndex (call : Index → Except Error (α × Index)) (p : Plane) :
    (onIndex call).exec p = match call p.index with
      | .ok (a, ix) => (.ok a, { p with index := ix })
      | .error e => (.error e, p) := by
  unfold onIndex
  rw [exec_get_bind]
  cases call p.index <;> rfl

theorem exec_onIndexWrite (call : Index → Except Error Index) (p : Plane) :
    (onIndexWrite call).exec p = match call p.index with
      | .ok ix => (.ok (), { p with index := ix })
      | .error e => (.error e, p) := by
  unfold onIndexWrite
  rw [exec_onIndex]
  cases call p.index <;> rfl

theorem exec_onIndexRead (call : Index → Except Error α) (p : Plane) :
    (onIndexRead call).exec p = (call p.index, p) := by
  unfold onIndexRead
  rw [exec_onIndex]
  cases call p.index <;> rfl

theorem exec_lift_bind {r : Except Error α} {p' : Plane} (x : StateM Plane (Except Error α))
    (f : Except Error α → Action β) (p : Plane) (h : x.run p = (r, p')) :
    Action.exec (ExceptT.lift x >>= f) p = (f r).exec p' := by
  simp only [Action.exec, ExceptT.run_bind, ExceptT.run_lift, StateT.run_bind, StateT.run_map, h]
  rfl

/-- A counted operation has the result and the state of the action, with its counters
moved. -/
theorem exec_recorded (o : Operation) (act : Action α) (p : Plane) :
    (recorded o act).exec p =
      ((act.exec p).1, { (act.exec p).2 with
        metrics := (act.exec p).2.metrics.recordResult o (act.exec p).1 }) := by
  unfold recorded
  rcases h : act.exec p with ⟨r, p'⟩
  rw [exec_lift_bind _ _ _ h]
  cases r <;> rfl

theorem exec_recorded_of {o : Operation} {act : Action α} {p : Plane}
    {r : Except Error α × Plane} (h : act.exec p = r) :
    (recorded o act).exec p = (r.1, { r.2 with metrics := r.2.metrics.recordResult o r.1 }) := by
  rw [exec_recorded, h]

/-! ## Rules -/

namespace Triple

variable {pre : Plane → Prop} {post : α → Plane → Prop} {fail : Plane → Prop}

theorem conseq {pre' : Plane → Prop} {post' : α → Plane → Prop} {fail' : Plane → Prop}
    {act : Action α} (h : Triple pre' act post' fail') (hpre : ∀ p, pre p → pre' p)
    (hpost : ∀ a p, post' a p → post a p) (hfail : ∀ p, fail' p → fail p) :
    Triple pre act post fail := by
  refine ⟨fun p hp => ?_⟩
  have outcome := h.run p (hpre p hp)
  generalize act.exec p = o at outcome ⊢
  rcases o with ⟨_ | a, p'⟩
  · exact hfail p' outcome
  · exact hpost a p' outcome

/-- Two triples of one action give the triple of both conclusions. -/
theorem and {post' : α → Plane → Prop} {fail' : Plane → Prop} {act : Action α}
    (h : Triple pre act post fail) (h' : Triple pre act post' fail') :
    Triple pre act (fun a p => post a p ∧ post' a p) (fun p => fail p ∧ fail' p) := by
  refine ⟨fun p hp => ?_⟩
  have first := h.run p hp
  have second := h'.run p hp
  generalize act.exec p = o at first second ⊢
  rcases o with ⟨_ | a, p'⟩
  · exact ⟨first, second⟩
  · exact ⟨first, second⟩

theorem or {pre' : Plane → Prop} {act : Action α} (h : Triple pre act post fail)
    (h' : Triple pre' act post fail) : Triple (fun p => pre p ∨ pre' p) act post fail :=
  ⟨fun p hp => hp.elim (h.run p) (h'.run p)⟩

theorem snd {act : Action α} {inv : Plane → Prop} (h : Triple pre act (fun _ => inv) inv)
    {p : Plane} (hp : pre p) : inv (act.exec p).2 := by
  have outcome := h.run p hp
  generalize act.exec p = o at outcome ⊢
  rcases o with ⟨_ | _, p'⟩ <;> exact outcome

theorem assume {act : Action α} (h : ∀ p, pre p → Triple pre act post fail) :
    Triple pre act post fail :=
  ⟨fun p hp => (h p hp).run p hp⟩

theorem pure {a : α} (h : ∀ p, pre p → post a p) : Triple pre (Pure.pure a) post fail := ⟨h⟩

theorem throw {e : Error} (h : ∀ p, pre p → fail p) :
    Triple pre (MonadExcept.throw e : Action α) post fail := ⟨h⟩

theorem get {post : Plane → Plane → Prop} (h : ∀ p, pre p → post p p) :
    Triple pre (MonadState.get : Action Plane) post fail := ⟨h⟩

theorem modify {g : Plane → Plane} {post : Unit → Plane → Prop} (h : ∀ p, pre p → post () (g p)) :
    Triple pre (modify g : Action PUnit) post fail := ⟨h⟩

theorem ofExcept {r : Except Error α} (h : ∀ p, pre p → Action.Outcome post fail (r, p)) :
    Triple pre (MonadExcept.ofExcept r : Action α) post fail := by
  refine ⟨fun p hp => ?_⟩
  rw [exec_ofExcept]
  exact h p hp

theorem check {r : Except Error Unit} {post : Unit → Plane → Prop}
    (h : ∀ p, pre p → Action.Outcome post fail (r, p)) : Triple pre (ControlPlane.check r) post fail :=
  ofExcept h

/-- Sequencing, through an assertion `mid` on the result of the first action and the plane it
leaves. -/
theorem bind {post : β → Plane → Prop} {x : Action α} {f : α → Action β}
    (mid : α → Plane → Prop) (hx : Triple pre x mid fail)
    (hf : ∀ a, Triple (mid a) (f a) post fail) : Triple pre (x >>= f) post fail := by
  refine ⟨fun p hp => ?_⟩
  have first := hx.run p hp
  rw [exec_bind]
  -- the rest runs on the plane the first action leaves, unless the first one failed
  generalize x.exec p = o at first ⊢
  rcases o with ⟨_ | a, p'⟩
  · exact first
  · exact (hf a).run p' first

theorem check_bind {r : Except Error Unit} {post : β → Plane → Prop} {f : Unit → Action β}
    (hok : r = .ok () → Triple pre (f ()) post fail) (herr : ∀ p, pre p → fail p) :
    Triple pre (ControlPlane.check r >>= f) post fail := by
  refine ⟨fun p hp => ?_⟩
  rw [exec_bind, ControlPlane.check, exec_ofExcept]
  cases r with
  | ok u => exact (hok rfl).run p hp
  | error e => exact herr p hp

/-- A result lifted into an action: the rest starts from `pre` with the value, or the action
fails there. -/
theorem ofExcept_bind {r : Except Error α} {post : β → Plane → Prop} {f : α → Action β}
    (hok : ∀ a, r = .ok a → Triple pre (f a) post fail) (herr : ∀ p, pre p → fail p) :
    Triple pre (MonadExcept.ofExcept r >>= f) post fail := by
  refine ⟨fun p hp => ?_⟩
  rw [exec_bind, exec_ofExcept]
  cases r with
  | ok a => exact (hok a rfl).run p hp
  | error e => exact herr p hp

/-- A result lifted into an action that is known to be a value: the rest starts from `pre` with
it. -/
theorem ofExcept_ok_bind {r : Except Error α} {a : α} {post : β → Plane → Prop} {f : α → Action β}
    (hr : r = .ok a) (h : Triple pre (f a) post fail) :
    Triple pre (MonadExcept.ofExcept r >>= f) post fail := by
  refine ⟨fun p hp => ?_⟩
  rw [exec_bind, exec_ofExcept, hr]
  exact h.run p hp

theorem get_bind {post : β → Plane → Prop} {f : Plane → Action β}
    (h : ∀ p₀, Triple (fun p => pre p ∧ p = p₀) (f p₀) post fail) :
    Triple pre (MonadState.get >>= f) post fail := by
  refine ⟨fun p hp => ?_⟩
  rw [exec_get_bind]
  exact (h p).run p ⟨hp, rfl⟩

theorem pure_bind {a : α} {post : β → Plane → Prop} {f : α → Action β}
    (h : Triple pre (f a) post fail) : Triple pre (Pure.pure a >>= f) post fail := by
  refine ⟨fun p hp => ?_⟩
  rw [exec_bind, exec_pure]
  exact h.run p hp

theorem throw_bind {e : Error} {post : β → Plane → Prop} {f : α → Action β}
    (h : ∀ p, pre p → fail p) : Triple pre (MonadExcept.throw e >>= f) post fail := by
  refine ⟨fun p hp => ?_⟩
  rw [exec_bind, exec_throw]
  exact h p hp

/-- A join point of a do block, the rest after a branch: proved once, for every value it is
entered with, and used by each branch. -/
theorem jp {γ : Type} {J : γ → Action α} {body : (γ → Action α) → Action α}
    (Q : γ → Plane → Prop) (hJ : ∀ x, Triple (Q x) (J x) post fail)
    (hbody : ∀ jp : γ → Action α, (∀ x, Triple (Q x) (jp x) post fail) →
      Triple pre (body jp) post fail) :
    Triple pre (let jp := J; body jp) post fail :=
  hbody J hJ

theorem ite {c : Prop} [Decidable c] {t e : Action α} (ht : c → Triple pre t post fail)
    (he : ¬ c → Triple pre e post fail) : Triple pre (if c then t else e) post fail :=
  iteInduction (motive := fun a => Triple pre a post fail) ht he

/-- A handler starts from what the action leaves when it fails, `mid`. -/
theorem tryCatch {x : Action α} {h : Error → Action α} (mid : Plane → Prop)
    (hx : Triple pre x post mid) (hh : ∀ e, Triple mid (h e) post fail) :
    Triple pre (MonadExcept.tryCatch x h) post fail := by
  refine ⟨fun p hp => ?_⟩
  have first := hx.run p hp
  rw [exec_tryCatch]
  generalize x.exec p = o at first ⊢
  rcases o with ⟨e | a, p'⟩
  · exact (hh e).run p' first
  · exact first

theorem onStore {call : Store → Nat → Except StoreError α × Store} {ctx : String}
    (h : ∀ p, pre p → Action.Outcome (fun a s => post a { p with store := s })
      (fun s => fail { p with store := s }) (call p.store p.clock)) :
    Triple pre (ControlPlane.onStore call ctx) post fail := by
  refine ⟨fun p hp => ?_⟩
  have step := h p hp
  rw [exec_onStore]
  generalize call p.store p.clock = o at step ⊢
  rcases o with ⟨_ | a, s⟩
  · exact step
  · exact step

/-- A store call that answers from every plane in `pre`. -/
theorem onStore_ok {call : Store → Nat → Except StoreError α × Store} {ctx : String}
    (h : ∀ p, pre p → ∃ a, (call p.store p.clock).1 = .ok a ∧
      post a { p with store := (call p.store p.clock).2 }) :
    Triple pre (ControlPlane.onStore call ctx) post fail := by
  refine onStore fun p hp => ?_
  obtain ⟨a, answered, after⟩ := h p hp
  revert answered after
  generalize call p.store p.clock = o
  rcases o with ⟨_ | a', s⟩
  · intro answered
    cases answered
  · intro answered after
    cases answered
    exact after

/-- A store call after which `I` holds whether it answers or not: `I` and what its answers meet
hold when it answers, and its failures meet `fail`, which `I` gives. -/
theorem onStore_keeps {call : Store → Nat → Except StoreError α × Store} {ctx : String}
    {I : Plane → Prop} {Q : α → Plane → Prop}
    (hI : ∀ p, pre p → I { p with store := (call p.store p.clock).2 })
    (hfail : ∀ p, I p → fail p)
    (hQ : ∀ p, pre p → ∀ a, (call p.store p.clock).1 = .ok a →
      Q a { p with store := (call p.store p.clock).2 }) :
    Triple pre (ControlPlane.onStore call ctx) (fun a p => I p ∧ Q a p) fail := by
  refine onStore fun p hp => ?_
  have after := hI p hp
  have answer := hQ p hp
  revert after answer
  rcases call p.store p.clock with ⟨_ | a, s⟩
  · exact fun after _ => hfail _ after
  · exact fun after answer => ⟨after, answer a rfl⟩

theorem onIndex {call : Index → Except Error (α × Index)}
    (hok : ∀ p a ix, pre p → call p.index = .ok (a, ix) → post a { p with index := ix })
    (herr : ∀ p e, pre p → call p.index = .error e → fail p) :
    Triple pre (ControlPlane.onIndex call) post fail := by
  refine ⟨fun p hp => ?_⟩
  rw [exec_onIndex]
  cases h : call p.index with
  | ok r => exact hok p r.1 r.2 hp h
  | error e => exact herr p e hp h

/-- An index call that only writes: its post holds of every index the call can answer, its
fail of every state where the call fails. -/
theorem onIndexWrite {call : Index → Except Error Index} {Q : Unit → Plane → Prop}
    (hok : ∀ p ix, pre p → call p.index = .ok ix → Q () { p with index := ix })
    (herr : ∀ p e, pre p → call p.index = .error e → fail p) :
    Triple pre (ControlPlane.onIndexWrite call) Q fail := by
  refine .onIndex (fun p a ix hp h => ?_) fun p e hp h => ?_
  · cases hc : call p.index with
    | error e =>
      rw [hc] at h
      cases h
    | ok ix' =>
      rw [hc] at h
      cases h
      exact hok p _ hp hc
  · cases hc : call p.index with
    | error e' =>
      rw [hc] at h
      cases h
      exact herr p _ hp hc
    | ok ix' =>
      rw [hc] at h
      cases h

/-- A counted operation meets what the action meets, when the counters do not matter. -/
theorem recorded {o : Operation} {act : Action α} (h : Triple pre act post fail)
    (hpost : ∀ a p m, post a p → post a { p with metrics := m })
    (hfail : ∀ p m, fail p → fail { p with metrics := m }) :
    Triple pre (ControlPlane.recorded o act) post fail := by
  refine ⟨fun p hp => ?_⟩
  have run := h.run p hp
  rw [exec_recorded]
  generalize act.exec p = o at run ⊢
  rcases o with ⟨_ | a, p'⟩
  · exact hfail p' _ run
  · exact hpost a p' _ run

/-- A loop over a list: each element takes the invariant of the list from it on to the
invariant of the list after it. -/
theorem forM {l : List β} {f : β → Action PUnit} (inv : List β → Plane → Prop)
    (h : ∀ b rest, (b :: rest) <:+ l → Triple (inv (b :: rest)) (f b) (fun _ => inv rest) fail) :
    Triple (inv l) (l.forM f) (fun _ => inv []) fail := by
  induction l with
  | nil => exact pure fun _ hp => hp
  | cons b l ih =>
    refine bind _ (h b l (List.suffix_refl _)) fun _ => ih fun b' rest hs => ?_
    exact h b' rest (hs.trans (List.suffix_cons b l))

end Triple

end Action

end ControlPlane
