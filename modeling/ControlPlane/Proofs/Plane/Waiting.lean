import ControlPlane.Proofs.Store.Delivery
import ControlPlane.Proofs.Configs.Runs

/-!
# Runs around a waiting watch

A watch of the control plane opens a subscription and takes a first look at it. When that look
finds nothing the watch waits, and later looks come while other clients call the store and time
passes. `WatchMove` is one such happening and `WatchRun.move` runs it; a run starts from
`WatchRun.opening`, and `startWatch` is that opening followed by a look (`startWatch_run`).

A look finishes the watch unless its receive finds nothing, its caller has not given up and its
time is not up (`WatchRun.look_ready`, `WatchRun.look_due`, `WatchRun.look_stays`). A watch that
still waits after a look is therefore exactly the waiter it opened as, and the look moved only
its receiver's queue (`WatchRun.look_waits`). What a run keeps of a waiting watch is then a
property of the store and of the batches committed since the watch opened: one that every call
leaving the receiver alone keeps, and that a receive that finds nothing keeps
(`WatchRun.Keeps.run`).
-/

namespace ControlPlane

/-- A look at a watch: the receive, then, when it is ready, the closing and the answer; when it
waits, the caller giving up or the end of the watch's time, or else waiting on. -/
theorem Waiter.step_run (w : Waiter) (p : Plane) {poll : Poll} {sub : Subscription} {hub : Hub}
    (hpoll : w.sub.poll p.store.hub = (poll, sub, hub)) :
    w.step.run p =
      match poll with
      | .ready r => (WatchState.done <$> w.kind.answer r).run
          { p with store := { p.store with hub := hub.close sub.receiver } }
      | .waiting =>
        if w.cancelled then
          (WatchState.done <$> w.kind.giveUp).run
            { p with store := { p.store with hub := hub.close sub.receiver } }
        else if w.deadline ≤ p.clock then
          (WatchState.done <$> w.kind.answer (.error ⟨.deadlineExceeded, "watch timed out"⟩)).run
            { p with store := { p.store with hub := hub.close sub.receiver } }
        else (.waiting { w with sub }, { p with store := { p.store with hub } }) := by
  have polled : p.store.poll w.sub = (poll, sub, { p.store with hub }) := by
    simp only [Store.poll, hpoll]
  unfold Waiter.step
  rw [Plane.run_get_bind, polled]
  dsimp only
  rw [Plane.run_set_bind]
  cases poll with
  | ready r => rfl
  | waiting =>
    dsimp only
    split_ifs <;> rfl

/-- What happens around a watch once it is open: a store call of another client, the clock
moving on, or a look at the watch. -/
inductive WatchMove where
  | call (c : Store.Call)
  | wait (ms : Nat)
  | look

/-- A watch in a run: where it stands, the plane, and the batches that other clients' calls
committed since the watch opened, oldest first. -/
structure WatchRun where
  state : WatchState
  plane : Plane
  committed : List Batch

/-- The waiter of a watch opened at the plane's moment. -/
def Waiter.opened (p : Plane) (kind : WatchKind) (filter : KeyFilter) (start : Revision)
    (timeoutMs : Nat) : Waiter :=
  { kind, sub := (p.store.watch p.clock filter start).1, deadline := p.clock + timeoutMs }

namespace WatchRun

/-- A watch just opened on a plane, before its first look. -/
def opening (p : Plane) (kind : WatchKind) (filter : KeyFilter) (start : Revision)
    (timeoutMs : Nat) : WatchRun where
  state := .waiting (Waiter.opened p kind filter start timeoutMs)
  plane := { p with store := (p.store.watch p.clock filter start).2 }
  committed := []

/-- A call changes the store and commits; time passing moves the clock; a look at a watch
that waits runs `Waiter.step`, and a finished watch stays as it is. -/
def move (r : WatchRun) : WatchMove → WatchRun
  | .call c => { r with plane := { r.plane with store := c.apply r.plane.store },
                        committed := r.committed ++ c.sent r.plane.store }
  | .wait ms => { r with plane := { r.plane with clock := r.plane.clock + ms } }
  | .look =>
    match r.state with
    | .waiting w => { r with state := (w.step.run r.plane).1, plane := (w.step.run r.plane).2 }
    | .done _ => r

end WatchRun

/-- Opening a watch of a service or a configuration is its opening, then a first look. -/
theorem startWatch_run (p : Plane) {kind : WatchKind} {filter : KeyFilter}
    (hf : kind.filter p.keyspace = .ok filter) (hraw : ∀ f, kind ≠ .raw f) (start : Revision)
    (timeoutMs : Nat) :
    (startWatch kind start timeoutMs false).run p =
      (((WatchRun.opening p kind filter start timeoutMs).move .look).state,
        ((WatchRun.opening p kind filter start timeoutMs).move .look).plane) := by
  unfold startWatch
  rw [Plane.run_get_bind, hf]
  dsimp only
  rw [Plane.run_set_bind]
  cases kind with
  | raw f => exact absurd rfl (hraw f)
  | service => rfl
  | config => rfl

namespace WatchRun

variable {w₀ : Waiter} {Q : Store → List Batch → Prop}

section

variable {r : WatchRun} {w : Waiter} {sub : Subscription} {hub : Hub}

theorem look_ready (hst : r.state = .waiting w) {res : Except StoreError (List WatchEvent)}
    (hpoll : w.sub.poll r.plane.store.hub = (.ready res, sub, hub)) :
    (r.move .look).state = ((WatchState.done <$> w.kind.answer res).run
      { r.plane with store := { r.plane.store with hub := hub.close sub.receiver } }).1 := by
  simp only [move, hst, Waiter.step_run w r.plane hpoll]

/-- A look whose receive finds nothing, at a watch its caller has not given up whose time is up,
closes the receiver and answers the deadline failure. -/
theorem look_due (hst : r.state = .waiting w) (hcanc : w.cancelled = false)
    (hpoll : w.sub.poll r.plane.store.hub = (.waiting, sub, hub))
    (hdue : w.deadline ≤ r.plane.clock) :
    (r.move .look).state =
      ((WatchState.done <$> w.kind.answer (.error ⟨.deadlineExceeded, "watch timed out"⟩)).run
        { r.plane with store := { r.plane.store with hub := hub.close sub.receiver } }).1 := by
  simp only [move, hst, Waiter.step_run w r.plane hpoll, hcanc, hdue, Bool.false_eq_true,
    ↓reduceIte]

/-- A look whose receive finds nothing, at a watch its caller has not given up with time left,
leaves the watch waiting as it was and moves only its receiver's queue. -/
theorem look_stays (hst : r.state = .waiting w) (hcanc : w.cancelled = false)
    (hpoll : w.sub.poll r.plane.store.hub = (.waiting, sub, hub))
    (hdue : ¬ w.deadline ≤ r.plane.clock) :
    r.move .look =
      { r with state := .waiting w, plane := { r.plane with store := { r.plane.store with hub } } } := by
  have unchanged : sub = w.sub := by
    have waits : (w.sub.poll r.plane.store.hub).1 = .waiting := by rw [hpoll]
    have same := Subscription.poll_sub_of_waiting waits
    rw [hpoll] at same
    exact same
  subst unchanged
  simp only [move, hst, Waiter.step_run w r.plane hpoll]
  rw [if_neg (by simp [hcanc]), if_neg hdue]

/-- A watch that still waits after a look, and whose caller did not give up, is the waiter it
was: the look's receive found nothing, and it moved only the receiver's queue on the hub. -/
theorem look_waits {v : Waiter} (hst : r.state = .waiting w) (hcanc : w.cancelled = false)
    (hv : (r.move .look).state = .waiting v) :
    v = w ∧ (w.sub.poll r.plane.store.hub).1 = .waiting ∧
      r.move .look =
        { r with plane := { r.plane with store :=
          { r.plane.store with hub := (w.sub.poll r.plane.store.hub).2.2 } } } := by
  rcases hpoll : w.sub.poll r.plane.store.hub with ⟨poll, sub, hub⟩
  -- a ready receive, or a waiting one whose time is up, finishes the watch
  cases poll with
  | ready res =>
    rw [look_ready hst hpoll] at hv
    cases hv
  | waiting =>
    by_cases hdue : w.deadline ≤ r.plane.clock
    · rw [look_due hst hcanc hpoll hdue] at hv
      cases hv
    · have stays := look_stays hst hcanc hpoll hdue
      rw [stays] at hv
      cases hv
      refine ⟨rfl, rfl, ?_⟩
      rw [stays]
      cases r
      cases hst
      rfl

end

/-- A run keeps a property of a waiting watch's store and of the batches committed since it
opened: whenever the watch waits, it is the waiter it opened as, and the property holds. -/
def Keeps (w₀ : Waiter) (Q : Store → List Batch → Prop) (r : WatchRun) : Prop :=
  ∀ w, r.state = .waiting w → w = w₀ ∧ Q r.plane.store r.committed

theorem Keeps.opening {p : Plane} {kind : WatchKind} {filter : KeyFilter} {start : Revision}
    {timeoutMs : Nat} (h : Q (p.store.watch p.clock filter start).2 []) :
    (WatchRun.opening p kind filter start timeoutMs).Keeps
      (Waiter.opened p kind filter start timeoutMs) Q := by
  intro w hw
  cases hw
  exact ⟨rfl, h⟩

section

variable (hcanc : w₀.cancelled = false)
  (hcall : ∀ s bs (c : Store.Call), Q s bs → ¬ c.Touches w₀.sub.receiver →
    Q (c.apply s) (bs ++ c.sent s))
  (hlook : ∀ s bs, Q s bs → (w₀.sub.poll s.hub).1 = .waiting →
    Q { s with hub := (w₀.sub.poll s.hub).2.2 } bs)
include hcanc hcall hlook

/-- A move keeps the property when calls that leave the receiver alone and receives that find
nothing keep it. -/
theorem Keeps.move {r : WatchRun} (h : r.Keeps w₀ Q) (m : WatchMove)
    (hown : ∀ c, m = .call c → ¬ c.Touches w₀.sub.receiver) : (r.move m).Keeps w₀ Q := by
  intro w hw
  cases m with
  | call c =>
    obtain ⟨rfl, hq⟩ := h w hw
    exact ⟨rfl, hcall _ _ c hq (hown c rfl)⟩
  | wait ms => exact h w hw
  | look =>
    cases hst : r.state with
    | done o => simp [WatchRun.move, hst] at hw
    | waiting v =>
      obtain ⟨rfl, hq⟩ := h v hst
      obtain ⟨rfl, hwait, heq⟩ := look_waits hst hcanc hw
      rw [heq]
      exact ⟨rfl, hlook _ _ hq hwait⟩

/-- A run of moves keeps the property, as long as no call touches the watch's receiver. -/
theorem Keeps.run : ∀ (moves : List WatchMove) (r : WatchRun), r.Keeps w₀ Q →
    (∀ c, WatchMove.call c ∈ moves → ¬ c.Touches w₀.sub.receiver) →
    (moves.foldl WatchRun.move r).Keeps w₀ Q
  | [], _, h, _ => h
  | m :: moves, r, h, hown => by
    rw [List.foldl_cons]
    apply Keeps.run moves
    · exact h.move hcanc hcall hlook m fun c hc => hown c (by rw [← hc]; exact List.mem_cons_self)
    · exact fun c hc => hown c (List.mem_cons_of_mem _ hc)

end

end WatchRun

end ControlPlane
