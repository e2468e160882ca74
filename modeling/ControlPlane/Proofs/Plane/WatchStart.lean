import ControlPlane.Proofs.Registry.FirstChange
import ControlPlane.Proofs.Configs.Calls

/-!
# A watch answers at or after its start

A service or configuration watch asked for a start revision answers either events of the store
or, when its receive failed compacted, a fresh read; a service watch answers a snapshot in both
cases. Both are at the start revision or later as long as the history was never compacted past
its head and the watch's receiver never falls behind the hub (`watch_answers_at_or_after_start`).
Each condition is needed: a start found compacted past the head, or a receiver that fell behind,
answers a read of the moment, older than a start in the future (`watch_answers_before_its_start`).

1. The head condition survives every commit, hence every sweep (`Store.Consistent.expire_head`).
2. The run invariant `WatchBounds`: what the waiting watch can still hand over lies between its
   start and the store's revision. Store calls of other clients and empty receives keep it.
3. One look within the bounds answers at the start revision or later
   (`WatchBounds.look_service`, `WatchBounds.look_config`), and `WatchRun.Keeps.run` carries the
   bounds along the run.
-/

namespace ControlPlane

open ControlPlane.Action

/-! ## A history never compacted past its head -/

namespace Store

variable {s : Store}

/-- A commit keeps the first retained revision at most one past the revision: the batches it
drops are at most the new one. -/
theorem commit_head {evs : List WatchEvent} (hc : s.Chained)
    (hhead : s.firstRetained ≤ s.revision + 1) :
    (s.commit (s.revision + 1) evs).firstRetained ≤ (s.commit (s.revision + 1) evs).revision + 1 := by
  have below : ∀ b ∈ s.history ++ [⟨s.revision + 1, evs⟩], b.revision ≤ s.revision + 1 := by
    intro b hb
    rcases List.mem_append.1 hb with hb | hb
    · have := hc.consecutive.revision_le_top b hb
      grind
    · rw [List.mem_singleton.1 hb]
  unfold commit
  split
  · exact hhead
  · dsimp only
    split
    · rename_i d hd
      have := below d (List.mem_of_mem_take (List.mem_of_getLast? hd))
      grind
    · grind

/-- Dropping a lease and what it holds keeps the first retained revision at most one past the
revision. -/
theorem Consistent.dropHeld_head (hc : s.Consistent) (hhead : s.firstRetained ≤ s.revision + 1)
    (id : LeaseId) : (s.dropHeld id).firstRetained ≤ (s.dropHeld id).revision + 1 := by
  have chained : (s.withoutLease id).Chained := hc.toChained.congr rfl rfl rfl
  exact commit_head chained hhead

theorem Consistent.expire_head (hc : s.Consistent) (hhead : s.firstRetained ≤ s.revision + 1)
    (now : Nat) : (s.expire now).firstRetained ≤ (s.expire now).revision + 1 := by
  rw [hc.expire_eq_dropHeld]
  generalize s.dueLeases now = ids
  induction ids generalizing s with
  | nil => exact hhead
  | cons id ids ih => exact ih hc.dropHeld (hc.dropHeld_head hhead id)

end Store

/-! ## What a waiting watch can still hand over -/

/-- What a waiting watch can still hand over lies between its start and the store's revision:
the store is reached from an empty one, the watch's receiver is open and numbered below the
hub's next number, every event the watch still holds is from its start revision on and no later
than the store's revision, and a watch that opened compacted started no later than that
revision. -/
structure WatchBounds (sub : Subscription) (s : Store) : Prop where
  logged : ∃ log, Store.Logged log s
  isOpen : s.hub.IsOpen sub.receiver
  below : sub.receiver < s.hub.nextId
  remaining : ∀ e ∈ sub.remaining s.hub,
    sub.startRevision ≤ e.kv.modRevision ∧ e.kv.modRevision ≤ s.revision
  compacted : sub.compacted = true → sub.startRevision ≤ s.revision

namespace WatchBounds

variable {sub : Subscription} {s : Store}

/-- A call that leaves the receiver alone keeps the bounds: the batches it sends carry its
revision or an earlier one, and the revision does not go down. -/
theorem call (h : WatchBounds sub s) (c : Store.Call) (hown : ¬ c.Touches sub.receiver) :
    WatchBounds sub (c.apply s) := by
  obtain ⟨log, hs⟩ := h.logged
  obtain ⟨hc, -, hp, -⟩ := hs.invariant
  obtain ⟨hopen, hqueue, hnext⟩ := c.prepared_hub hc hown h.isOpen h.below
  have happly := c.apply_eq_publish hp
  have logged := Store.Logged.call c hs
  obtain ⟨-, hj', hp', -⟩ := logged.invariant
  have grows := Store.Call.revision_le_apply hc c
  -- the batches the call sends carry their revision, at most the new one
  have sent : ∀ b ∈ c.sent s, ∀ ev ∈ b.events,
      ev.kv.modRevision = b.revision ∧ b.revision ≤ (c.apply s).revision := by
    intro b hb ev hev
    have hmem : b ∈ (log ++ c.sent s) ++ (c.apply s).pending := by simp [hp', hb]
    exact ⟨hj'.stamped b hmem ev hev, hj'.consecutive.revision_le_top b hmem⟩
  have queue : (c.apply s).hub.queued sub.receiver = s.hub.queued sub.receiver ++ c.sent s := by
    rw [happly]
    simp only [Store.publish]
    rw [Hub.queued_sends hopen, hqueue]
    rfl
  refine ⟨⟨_, logged⟩, ?_, ?_, ?_, fun hcomp => (h.compacted hcomp).trans grows⟩
  · rw [happly]
    exact (Hub.isOpen_sends _).2 hopen
  · rw [happly]
    simp only [Store.publish, Hub.sends_nextId]
    have := h.below
    omega
  · intro e he
    rw [Subscription.remaining, queue, List.flatMap_append, ← List.append_assoc] at he
    rcases List.mem_append.1 he with old | new
    · obtain ⟨lo, hi⟩ := h.remaining e old
      exact ⟨lo, hi.trans grows⟩
    · obtain ⟨b, hb, hsel⟩ := List.mem_flatMap.1 new
      obtain ⟨hev, hok⟩ := List.mem_filter.1 hsel
      simp only [Bool.and_eq_true, decide_eq_true_eq] at hok
      obtain ⟨stamp, le⟩ := sent b hb e hev
      exact ⟨hok.1, stamp ▸ le⟩

/-- A receive that finds nothing keeps the bounds: nothing is left, and it commits nothing. -/
theorem poll_waiting (h : WatchBounds sub s) (hwait : (sub.poll s.hub).1 = .waiting) :
    WatchBounds sub { s with hub := (sub.poll s.hub).2.2 } := by
  obtain ⟨log, hs⟩ := h.logged
  obtain ⟨-, -, hp, -⟩ := hs.invariant
  have logged : Store.Logged log { s with hub := (sub.poll s.hub).2.2 } := by
    have := Store.Logged.call (Store.Call.poll sub) hs
    have none : (Store.Call.poll sub).sent s = [] := hp
    rwa [none, List.append_nil] at this
  -- a compacted or cancelled watch would have been ready
  have live : sub.compacted = false := by
    cases hcomp : sub.compacted
    · rfl
    · simp [Subscription.poll, hcomp] at hwait
  have open' : sub.cancelled = false := by
    cases hcanc : sub.cancelled
    · rfl
    · simp [Subscription.poll, live, hcanc] at hwait
  have same := Subscription.poll_sub_of_waiting hwait
  have hlag : (sub.poll s.hub).2.1.compacted = false := by rw [same]; exact live
  obtain ⟨-, hdel, hnone, hop, hid⟩ := Subscription.poll_delivers h.isOpen live open' hlag
  have empty : sub.remaining (sub.poll s.hub).2.2 = [] := by
    rw [hwait, same, hnone hwait] at hdel
    simpa [Poll.delivered] using hdel
  refine ⟨⟨log, logged⟩, hop, ?_, ?_, h.compacted⟩
  · show sub.receiver < (sub.poll s.hub).2.2.nextId
    rw [hid]
    exact h.below
  · intro e he
    rw [show sub.remaining ({ s with hub := (sub.poll s.hub).2.2 } : Store).hub = [] from empty] at he
    cases he

/-- A watch opened on a store reached from an empty one whose history was never compacted past
its head starts within the bounds: its backlog holds retained events from its start on, its new
receiver holds what the call's own sweep committed, and a start found compacted is at most the
revision. -/
theorem opened {log : List Batch} (hs : Store.Logged log s)
    (hhead : s.firstRetained ≤ s.revision + 1) (now : Nat) (filter : KeyFilter) (start : Revision) :
    WatchBounds (s.watch now filter start).1 (s.watch now filter start).2 := by
  obtain ⟨hc, hj, -, hf⟩ := hs.invariant
  have hct : (s.expire now).Consistent := hc.expire
  have hjt : Store.Journal log (s.expire now) := hj.expire hc
  have hhub : (s.expire now).hub = s.hub := hc.expire_hub
  obtain ⟨hopen, hempty⟩ := Hub.subscribe_self (hhub ▸ hf : (s.expire now).hub.Fresh)
  have store : (s.watch now filter start).2 =
      ({ s.expire now with hub := (s.expire now).hub.subscribe.1 } : Store).publish := rfl
  have recv := (Store.watch_opens s now filter start).1
  have revision : (s.watch now filter start).2.revision = (s.expire now).revision := by rw [store]; rfl
  have queue : (s.watch now filter start).2.hub.queued (s.watch now filter start).1.receiver =
      (s.expire now).pending := by
    rw [store, recv]
    simp only [Store.publish]
    rw [Hub.queued_sends hopen, hempty, List.nil_append]
  -- the sweep's batches and the retained ones carry their revision, at most the swept store's
  have swept : ∀ b ∈ (s.expire now).pending, ∀ ev ∈ b.events,
      ev.kv.modRevision = b.revision ∧ b.revision ≤ (s.expire now).revision := by
    intro b hb ev hev
    have hmem : b ∈ log ++ (s.expire now).pending := List.mem_append_right _ hb
    exact ⟨hjt.stamped b hmem ev hev, hjt.consecutive.revision_le_top b hmem⟩
  have retained : ∀ b ∈ (s.expire now).history, ∀ ev ∈ b.events,
      ev.kv.modRevision = b.revision ∧ b.revision ≤ (s.expire now).revision :=
    fun b hb ev hev => ⟨hct.toChained.stamped b hb ev hev, hct.toChained.consecutive.revision_le_top b hb⟩
  refine ⟨⟨_, Store.Logged.call (.watch now filter start) hs⟩, ?_, ?_, ?_, ?_⟩
  · rw [store, recv]
    exact (Hub.isOpen_sends _).2 hopen
  · rw [store, recv]
    simp [Store.publish]
  · intro e he
    rw [Subscription.remaining, queue] at he
    rw [revision]
    rcases List.mem_append.1 he with old | new
    · -- the backlog: retained events from the start on, only for a start that is not compacted
      rw [Store.watch_eq] at old ⊢
      split_ifs at old ⊢
      · cases old
      · cases old
      · obtain ⟨hmem, -⟩ := List.mem_filter.1 old
        obtain ⟨b, hb, hev⟩ := List.mem_flatMap.1 hmem
        obtain ⟨hb, hge⟩ := List.mem_filter.1 hb
        obtain ⟨stamp, le⟩ := retained b hb e hev
        simp only [ge_iff_le, decide_eq_true_eq] at hge
        exact ⟨stamp ▸ hge, stamp ▸ le⟩
    · -- the receiver: what the sweep committed, as its filter selects it
      obtain ⟨b, hb, hsel⟩ := List.mem_flatMap.1 new
      obtain ⟨hev, hok⟩ := List.mem_filter.1 hsel
      simp only [Bool.and_eq_true, decide_eq_true_eq] at hok
      obtain ⟨stamp, le⟩ := swept b hb e hev
      exact ⟨hok.1, stamp ▸ le⟩
  · intro hcomp
    rw [revision]
    have head := hc.expire_head hhead now
    -- only a start before the first retained revision opens compacted
    by_cases hle : start ≤ 0
    · simp [Store.watch_eq, hle] at hcomp
    · by_cases hlt : start < (s.expire now).firstRetained
      · rw [Store.watch_eq, if_neg hle, if_pos hlt]
        exact Int.lt_add_one_iff.1 (lt_of_lt_of_le hlt head)
      · simp [Store.watch_eq, hle, hlt] at hcomp

/-- What a ready receive on a watch within the bounds gives, when its receiver has not fallen
behind: events, each from the start on and no later than the revision, or the compacted failure
of a watch that opened compacted, whose start is at most the revision. -/
theorem ready (h : WatchBounds sub s) (hcanc : sub.cancelled = false)
    (hfit : (s.hub.queued sub.receiver).length ≤ s.hub.capacity) {res : Except StoreError (List WatchEvent)}
    (hready : (sub.poll s.hub).1 = .ready res) :
    (∃ evs, res = .ok evs ∧ evs ≠ [] ∧
        ∀ e ∈ evs, sub.startRevision ≤ e.kv.modRevision ∧ e.kv.modRevision ≤ s.revision) ∨
      (∃ e, res = .error e ∧ e.status = .compacted ∧ sub.startRevision ≤ s.revision) := by
  cases hcomp : sub.compacted with
  | true =>
    simp only [Subscription.poll, hcomp, if_true, Poll.ready.injEq] at hready
    exact .inr ⟨_, hready.symm, rfl, h.compacted hcomp⟩
  | false =>
    have hlag : (sub.poll s.hub).2.1.compacted = false := by
      rw [Subscription.poll_of_fits h.isOpen hfit, hcomp]
    rcases Subscription.poll_result s.hub hcomp hcanc with hw | ⟨evs, hr, hne⟩ | ⟨e, -, -, hc⟩
    · rw [hready] at hw
      cases hw
    · -- what it hands over is a prefix of what the watch held
      rw [hready] at hr
      cases hr
      obtain ⟨-, hdel, -⟩ := Subscription.poll_delivers h.isOpen hcomp hcanc hlag
      refine .inl ⟨evs, rfl, hne, fun e he => h.remaining e ?_⟩
      rw [← hdel, hready]
      exact List.mem_append_left _ he
    · rw [hlag] at hc
      cases hc

end WatchBounds

/-- A successful snapshot is read at the swept store's revision, at least the store's. -/
theorem snapshot_revision_le {q : Plane} {service : String} {zone : Option String}
    {client : Option IpAddr} {snap : ServiceSnapshot} {rev : Revision}
    (h : ((snapshot service zone client).exec q).1 = .ok (snap, rev)) (hc : q.store.Consistent) :
    q.store.revision ≤ rev := by
  cases hstart : scanStart q.keyspace service zone with
  | error e =>
    unfold snapshot at h
    rw [exec_get_bind, exec_bind, exec_ofExcept, hstart] at h
    cases h
  | ok start =>
    rw [snapshot_eq_answer q hc client hstart] at h
    unfold Snapshot.answer at h
    split_ifs at h
    split at h
    · cases h
    · cases h
      exact (Store.Prunes.expire hc q.clock).revision_le

@[simp] theorem mapError_eq_ok {ε ε' α : Type} {x : Except ε α} {f : ε → ε'} {a : α} :
    x.mapError f = .ok a ↔ x = .ok a := by
  cases x <;> simp [Except.mapError]

/-- A service watch that answers a snapshot took it: its answer is the snapshot's. -/
theorem serviceAnswer_ok {service : String} {zone : Option String} {client : Option IpAddr}
    {r : Except StoreError (List WatchEvent)} {q : Plane} {v : ServiceSnapshot × Revision}
    (h : ((serviceAnswer service zone client r).exec q).1 = .ok v) :
    ((snapshot service zone client).exec q).1 = .ok v := by
  rcases r with e | evs
  · by_cases hcomp : (e.status == .compacted) = true
    · have compacted : e.status = .compacted := by
        cases hs : e.status with
        | compacted => rfl
        | _ => rw [hs] at hcomp; cases hcomp
      rw [serviceAnswer_of_ready (.inr ⟨e, rfl, compacted⟩)] at h
      exact mapError_eq_ok.1 h
    · -- any other failure of the receive is the watch's failure
      unfold serviceAnswer at h
      dsimp only at h
      rw [if_neg hcomp, exec_bind, exec_throw] at h
      cases h
  · rw [serviceAnswer_of_ready (.inl ⟨evs, rfl⟩)] at h
    exact mapError_eq_ok.1 h

theorem WatchKind.answer_config_run (appId : Int) (node name : String)
    (r : Except StoreError (List WatchEvent)) (q : Plane) :
    ((WatchState.done <$> (WatchKind.config appId node name).answer r).run q).1 =
      .done (.config ((configAnswer appId node name r).exec q).1) := by
  show WatchState.done (.config ((recorded .configWatch (configAnswer appId node name r)).exec q).1) = _
  rw [exec_recorded]

/-- A configuration watch that answers an item from events answers the first event's revision. -/
theorem configAnswer_events {appId : Int} {node name : String} {evs : List WatchEvent} {q : Plane}
    {item : ConfigItem} {rev : Revision}
    (h : ((configAnswer appId node name (.ok evs)).exec q).1 = .ok (item, rev)) :
    ∃ e ∈ evs, rev = e.kv.modRevision := by
  unfold configAnswer at h
  cases evs with
  | nil => cases h
  | cons e rest =>
    dsimp only at h
    split_ifs at h
    · rw [exec_bind, exec_onIndexWrite] at h
      split at h
      · exact ⟨e, List.mem_cons_self, (Prod.mk.inj (Except.ok.inj h)).2.symm⟩
      · cases h
    · cases h

/-- A configuration watch whose receive failed compacted answers a read at the swept store's
revision. -/
theorem configAnswer_compacted {appId : Int} {node name : String} (hname : checkName name = .ok ())
    {e : StoreError} (he : e.status = .compacted) {q : Plane} {item : ConfigItem} {rev : Revision}
    (h : ((configAnswer appId node name (.error e)).exec q).1 = .ok (item, rev)) :
    rev = (q.store.expire q.clock).revision := by
  unfold configAnswer at h
  dsimp only at h
  rw [if_pos (by rw [he]; rfl), exec_readConfig hname] at h
  obtain ⟨-, -, -, rfl, -⟩ := readOutcome_ok h
  rfl

/-! ## A look answers at or after the start -/

namespace WatchBounds

variable {r : WatchRun} {w : Waiter}

/-- A look at a service watch within the bounds whose receiver has not fallen behind answers a
snapshot, if it answers one, read at the watch's start revision or later: what the receive gave
was from the start on, or the watch opened compacted at a start no later than the revision, and
the snapshot is read at the revision or later. -/
theorem look_service (h : WatchBounds w.sub r.plane.store) (hst : r.state = .waiting w)
    {service : String} {zone : Option String} {client : Option IpAddr}
    (hkind : w.kind = .service service zone client) (hcanc : w.cancelled = false)
    (hsub : w.sub.cancelled = false)
    (hfit : (r.plane.store.hub.queued w.sub.receiver).length ≤ r.plane.store.hub.capacity)
    {snap : ServiceSnapshot} {rev : Revision}
    (hdone : (r.move .look).state = .done (.service (.ok (snap, rev)))) : w.sub.startRevision ≤ rev := by
  obtain ⟨log, hs⟩ := h.logged
  have hc := hs.invariant.1
  rcases hpoll : w.sub.poll r.plane.store.hub with ⟨poll, sub, hub⟩
  cases poll with
  | waiting =>
    -- a look that finds nothing answers the deadline failure, or keeps waiting
    by_cases hdue : w.deadline ≤ r.plane.clock
    · rw [WatchRun.look_due hst hcanc hpoll hdue, hkind, WatchKind.answer_service_run,
        serviceAnswer_timeout] at hdone
      cases hdone
    · rw [WatchRun.look_stays hst hcanc hpoll hdue] at hdone
      cases hdone
  | ready res =>
    have reach : w.sub.startRevision ≤ r.plane.store.revision := by
      rcases h.ready hsub hfit (by rw [hpoll]) with ⟨evs, -, hne, hevs⟩ | ⟨-, -, -, hle⟩
      · obtain ⟨e, he⟩ := List.exists_mem_of_ne_nil evs hne
        exact (hevs e he).1.trans (hevs e he).2
      · exact hle
    rw [WatchRun.look_ready hst hpoll, hkind, WatchKind.answer_service_run] at hdone
    simp only [WatchState.done.injEq, WatchOutcome.service.injEq] at hdone
    have closed : ({ r.plane.store with hub := hub.close sub.receiver } : Store).Consistent :=
      hc.congr rfl rfl rfl rfl rfl rfl
    have snapped := serviceAnswer_ok hdone
    have read := snapshot_revision_le snapped closed
    exact reach.trans read

/-- A look at a configuration watch within the bounds whose receiver has not fallen behind
answers an item, if it answers one, at the watch's start revision or later: the revision of an
event from the start on, or the revision of a read after a compacted start no later than it. -/
theorem look_config (h : WatchBounds w.sub r.plane.store) (hst : r.state = .waiting w)
    {appId : Int} {node name : String} (hkind : w.kind = .config appId node name)
    (hname : checkName name = .ok ()) (hcanc : w.cancelled = false)
    (hsub : w.sub.cancelled = false)
    (hfit : (r.plane.store.hub.queued w.sub.receiver).length ≤ r.plane.store.hub.capacity)
    {item : ConfigItem} {rev : Revision}
    (hdone : (r.move .look).state = .done (.config (.ok (item, rev)))) : w.sub.startRevision ≤ rev := by
  obtain ⟨log, hs⟩ := h.logged
  have hc := hs.invariant.1
  rcases hpoll : w.sub.poll r.plane.store.hub with ⟨poll, sub, hub⟩
  cases poll with
  | waiting =>
    by_cases hdue : w.deadline ≤ r.plane.clock
    · rw [WatchRun.look_due hst hcanc hpoll hdue, hkind, WatchKind.answer_config_run] at hdone
      cases hdone
    · rw [WatchRun.look_stays hst hcanc hpoll hdue] at hdone
      cases hdone
  | ready res =>
    rw [WatchRun.look_ready hst hpoll, hkind, WatchKind.answer_config_run] at hdone
    simp only [WatchState.done.injEq, WatchOutcome.config.injEq] at hdone
    rcases h.ready hsub hfit (by rw [hpoll]) with ⟨evs, rfl, -, hevs⟩ | ⟨e, rfl, he, hle⟩
    · -- the first event's revision, from the start on
      obtain ⟨e, hmem, rfl⟩ := configAnswer_events hdone
      exact (hevs e hmem).1
    · -- a read after a compacted start, at the swept store's revision
      rw [configAnswer_compacted hname he hdone]
      have closed : ({ r.plane.store with hub := hub.close sub.receiver } : Store).Consistent :=
        hc.congr rfl rfl rfl rfl rfl rfl
      exact hle.trans (Store.Prunes.expire closed r.plane.clock).revision_le

end WatchBounds

/-- A watch's first reported revision is at least its requested start: the next revision for a
start of 0 or less, the start itself otherwise. -/
theorem Store.le_startRevision {s : Store} (hs : Store.Reachable s) (now : Nat) (filter : KeyFilter)
    (start : Revision) : start ≤ (s.watch now filter start).1.startRevision := by
  have one := hs.one_le_revision
  have grows := (Store.Prunes.expire hs.consistent now).revision_le
  rw [Store.watch_eq]
  split_ifs with hle
  · show start ≤ (s.expire now).revision + 1
    grind
  · exact le_refl start
  · exact le_refl start

/-- A watch of a service or of a configuration never answers a revision before the one it asked
for, as long as its receiver does not fall behind and the store's history was never compacted
past its head. On a store reached from an empty one with journal `log` whose first retained
revision is at most one past its revision, for any start and any interleaving of other clients'
store calls that leave the watch's receiver alone, time passing and looks at it: opening the
watch is its opening and a first look, and every look at it while it waits, when its receiver
holds no more than the hub keeps, answers a snapshot or an item, if it answers one, at the start
revision or later. -/
theorem watch_answers_at_or_after_start {p : Plane} {log : List Batch}
    (hs : Store.Logged log p.store) (hhead : p.store.firstRetained ≤ p.store.revision + 1)
    {kind : WatchKind} {filter : KeyFilter} (hfilter : kind.filter p.keyspace = .ok filter)
    (hraw : ∀ f, kind ≠ .raw f) (start : Revision) (timeoutMs : Nat) (moves : List WatchMove)
    (hown : ∀ c, WatchMove.call c ∈ moves → ¬ c.Touches p.store.hub.nextId) :
    let opened := WatchRun.opening p kind filter start timeoutMs
    let r := moves.foldl WatchRun.move opened
    (startWatch kind start timeoutMs false).run p =
        ((opened.move .look).state, (opened.move .look).plane) ∧
      ∀ w, r.state = .waiting w →
        (r.plane.store.hub.queued w.sub.receiver).length ≤ r.plane.store.hub.capacity →
        (∀ service zone client, kind = .service service zone client →
          ∀ snap rev, (r.move .look).state = .done (.service (.ok (snap, rev))) → start ≤ rev) ∧
        (∀ appId node name, kind = .config appId node name →
          ∀ item rev, (r.move .look).state = .done (.config (.ok (item, rev))) → start ≤ rev) := by
  intro opened r
  refine ⟨startWatch_run p hfilter hraw start timeoutMs, ?_⟩
  intro w hw hfit
  let w₀ := Waiter.opened p kind filter start timeoutMs
  obtain ⟨hc, -, -, -⟩ := hs.invariant
  -- the watch opens on the hub's next receiver, and not cancelled
  have opens := Store.watch_opens p.store p.clock filter start
  have hrecv : w₀.sub.receiver = p.store.hub.nextId := by
    show (p.store.watch p.clock filter start).1.receiver = _
    rw [opens.1, hc.expire_hub]
  have hsub : w₀.sub.cancelled = false := opens.2
  have keeps : r.Keeps w₀ fun s _ => WatchBounds w₀.sub s := by
    apply WatchRun.Keeps.run rfl
    · intro s bs c hb hc'
      exact hb.call c hc'
    · intro s bs hb hwait
      exact hb.poll_waiting hwait
    · exact WatchRun.Keeps.opening (WatchBounds.opened hs hhead p.clock filter start)
    · intro c hc'
      rw [hrecv]
      exact hown c hc'
  obtain ⟨rfl, hb⟩ := keeps w hw
  have first : start ≤ w₀.sub.startRevision :=
    Store.le_startRevision hs.reachable p.clock filter start
  refine ⟨fun service zone client hkind snap rev hdone => ?_,
    fun appId node name hkind item rev hdone => ?_⟩
  · exact first.trans (hb.look_service hw hkind rfl hsub hfit hdone)
  · -- a configuration watch opened only on a checked name
    have hname : checkName name = .ok () := by
      rw [hkind] at hfilter
      dsimp only [WatchKind.filter] at hfilter
      cases hn : checkName name with
      | error e =>
        rw [hn] at hfilter
        cases hfilter
      | ok u => rfl
    exact first.trans (hb.look_config hw hkind hname rfl hsub hfit hdone)

/-- A watch of a service on an empty store, from revision 3, with nothing else happening. -/
theorem service_watch_from_future_revision :
    let p : Plane := { store := Store.make 4096 1024 }
    let kind := WatchKind.service "orders:1.0" none none
    let filter := KeyFilter.startingWith (p.keyspace.serviceScanStart "orders:1.0")
    Store.Logged [] p.store ∧ p.store.firstRetained ≤ p.store.revision + 1 ∧
      kind.filter p.keyspace = .ok filter ∧
      let opened := WatchRun.opening p kind filter 3 100
      let r := ([] : List WatchMove).foldl WatchRun.move opened
      (startWatch kind 3 100 false).run p =
          ((opened.move .look).state, (opened.move .look).plane) ∧
        ∀ w, r.state = .waiting w →
          (r.plane.store.hub.queued w.sub.receiver).length ≤ r.plane.store.hub.capacity →
          (∀ service zone client, kind = .service service zone client →
            ∀ snap rev, (r.move .look).state = .done (.service (.ok (snap, rev))) → 3 ≤ rev) ∧
          (∀ appId node name, kind = .config appId node name →
            ∀ item rev, (r.move .look).state = .done (.config (.ok (item, rev))) → 3 ≤ rev) :=
  ⟨.make 4096 1024, by decide, rfl,
    watch_answers_at_or_after_start (.make 4096 1024) (by decide) rfl (fun _ h => by cases h) 3 100 []
      (fun _ h => by cases h)⟩

/-- Both ways a watch answers before its start. A watch from revision 50 on a store whose history
was compacted to revision 100 while its revision is 2 finds its start compacted and answers the
query at revision 2. A watch from revision 100 whose receiver, of capacity 1, is sent two batches
while it waits falls behind and answers the query at revision 4. -/
theorem watch_answers_before_its_start :
    (let s := ((Store.Call.put 0 "/services/orders:1.0/dc-1/node_10.0.0.5:9000"
        "\x7b\"type\":\"grpc\",\"address\":\"10.0.0.5:9000\"\x7d" .detach).apply
          (Store.make 4096 1024)).compact 100
     let p : Plane := { store := s }
     ¬ s.firstRetained ≤ s.revision + 1 ∧
       (match ((startWatch (.service "orders:1.0" none none) 50 100 false).run p).1 with
         | .done (.service (.ok (_, rev))) => decide (rev < 50)
         | _ => false) = true) ∧
    (let s := (Store.Call.put 0 "/services/orders:1.0/dc-1/node_10.0.0.5:9000"
          "\x7b\"type\":\"grpc\",\"address\":\"10.0.0.5:9000\"\x7d" .detach).apply
            (Store.make 4096 1)
     let p : Plane := { store := s }
     let r := [WatchMove.look, .call (.put 0 "/x/a" "1" .detach), .call (.put 0 "/x/b" "1" .detach)].foldl
       WatchRun.move (WatchRun.opening p (.service "orders:1.0" none none)
         (.startingWith (p.keyspace.serviceScanStart "orders:1.0")) 100 600000)
     (match r.state with | .waiting _ => true | .done _ => false) = true ∧
       r.plane.store.hub.capacity < (r.plane.store.hub.queued p.store.hub.nextId).length ∧
       (match (r.move .look).state with
         | .done (.service (.ok (_, rev))) => decide (rev < 100)
         | _ => false) = true) := by
  decide +kernel

end ControlPlane
