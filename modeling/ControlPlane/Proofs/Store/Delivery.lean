import ControlPlane.Proofs.Store.Journal

/-!
# Watch delivery

A watch from revision `first` on the keys of a filter must report, over its successive
receives, the events on its keys of every batch from `first` on, those committed before it
opened and those committed after, each once and in commit order (`KeyFilter.wanted`, read
against the journal of `Store.Logged`).

The watch call sweeps first, then opens its receiver, reads its backlog from the history and
sends what the sweep committed. A batch of that sweep is therefore both in the backlog and on
the receiver, and with a short history it can push the start out of the history before the
start is checked. When the sweep commits nothing, that is when no entry is held by a lease whose
time is up, delivery is exact (`watch_delivers_exactly`): at every point of a run of calls and
receives in which the receiver does not fall behind, the events delivered so far, followed by
those the watch still holds, are exactly what it must report; and a receive that waits has
delivered all of it. `watch_own_sweep_breaks_exactness` shows both ways it fails otherwise.

1. `KeyFilter.wanted`: what a watch must report out of a list of batches.
2. `WatchStep`, `Watching`, `Store.watchRun`: a watch and the calls and receives after it.
3. `Watching.Exact`: the invariant of such a run; `Watching.Exact.step` keeps it.
4. `Store.watch_delivers_exactly`.
-/

namespace ControlPlane

/-- What a watch from revision `first` on the keys of `filter` reports out of some batches: the
events on its keys of the batches from `first` on, in order. -/
def KeyFilter.wanted (filter : KeyFilter) (first : Revision) (bs : List Batch) : List WatchEvent :=
  (bs.filter fun b => first ≤ b.revision).flatMap fun b => b.events.filter fun e => filter.covers e.kv.key

theorem KeyFilter.wanted_append {filter : KeyFilter} {first : Revision} {bs bs' : List Batch} :
    filter.wanted first (bs ++ bs') = filter.wanted first bs ++ filter.wanted first bs' := by
  simp [KeyFilter.wanted, List.filter_append, List.flatMap_append]

theorem KeyFilter.wanted_of_lt {filter : KeyFilter} {first : Revision} {bs : List Batch}
    (h : ∀ b ∈ bs, b.revision < first) : filter.wanted first bs = [] := by
  have none : bs.filter (fun b => first ≤ b.revision) = [] :=
    List.filter_eq_nil_iff.2 fun b hb => by simpa using h b hb
  simp [KeyFilter.wanted, none]

/-- On batches whose events carry their batch's revision, a subscription takes out exactly what
its filter wants from its start on. -/
theorem Subscription.flatMap_select {sub : Subscription} {bs : List Batch}
    (hst : ∀ b ∈ bs, ∀ ev ∈ b.events, ev.kv.modRevision = b.revision) :
    bs.flatMap sub.select = sub.filter.wanted sub.startRevision bs := by
  induction bs with
  | nil => rfl
  | cons b bs ih =>
    have rest := ih fun b' hb' => hst b' (List.mem_cons_of_mem _ hb')
    have stamped := hst b List.mem_cons_self
    rw [List.flatMap_cons, rest, show b :: bs = [b] ++ bs from rfl, KeyFilter.wanted_append]
    congr 1
    -- a batch's events are all from its revision: the batch is in or out as a whole
    by_cases hin : sub.startRevision ≤ b.revision
    · rw [show sub.filter.wanted sub.startRevision [b] =
          b.events.filter fun e => sub.filter.covers e.kv.key by simp [KeyFilter.wanted, hin]]
      apply List.filter_congr
      intro ev hev
      simp [stamped ev hev, hin]
    · have drop : sub.select b = [] := by
        apply List.filter_eq_nil_iff.2
        intro ev hev
        simp only [stamped ev hev, Bool.and_eq_true, decide_eq_true_eq, not_and]
        intro hle
        exact absurd hle hin
      rw [drop, KeyFilter.wanted_of_lt (by simpa using hin)]

/-- One step after a watch opened: a call of the store, or a receive on the watch. -/
inductive WatchStep where
  | call (c : Store.Call)
  | recv

/-- Where a watch stands: its subscription, the store, the events its successful receives
delivered, and the batches the calls committed since it opened, oldest first. -/
structure Watching where
  sub : Subscription
  store : Store
  delivered : List WatchEvent
  committed : List Batch

/-- A call changes the store and commits; a receive polls the watch. -/
def Watching.step (w : Watching) : WatchStep → Watching
  | .call c => { w with store := c.apply w.store, committed := w.committed ++ c.sent w.store }
  | .recv =>
    let (p, sub, store) := w.store.poll w.sub
    { w with sub, store, delivered := w.delivered ++ p.delivered }

/-- Opens a watch at `now`, then runs the steps. -/
def Store.watchRun (s : Store) (now : Nat) (filter : KeyFilter) (start : Revision)
    (steps : List WatchStep) : Watching :=
  let (sub, store) := s.watch now filter start
  steps.foldl Watching.step ⟨sub, store, [], []⟩

namespace Store

variable {s : Store} {log : List Batch} {now : Nat} {filter : KeyFilter} {start : Revision}

/-! ## A sweep that commits nothing -/

/-- Dropping leases that hold no entry commits nothing. -/
theorem foldl_dropHeld_quiet :
    ∀ (ids : List LeaseId) (t : Store), (∀ id ∈ ids, ∀ e ∈ t.entries, e.lease ≠ id) →
      (ids.foldl dropHeld t).revision = t.revision ∧ (ids.foldl dropHeld t).history = t.history ∧
      (ids.foldl dropHeld t).firstRetained = t.firstRetained ∧
      (ids.foldl dropHeld t).pending = t.pending
  | [], _, _ => ⟨rfl, rfl, rfl, rfl⟩
  | id :: ids, t, hfree => by
    have unheld : t.entries.filter (·.lease == id) = [] :=
      List.filter_eq_nil_iff.2 fun e he => by simpa using hfree id List.mem_cons_self e he
    -- the lease holds nothing: the drop is the lease's removal, with nothing to commit
    have quiet : t.dropHeld id = t.withoutLease id := by
      simp [dropHeld, leaseTombstones, unheld]
    have rest : ∀ id' ∈ ids, ∀ e ∈ (t.dropHeld id).entries, e.lease ≠ id' := by
      intro id' hid' e he
      rw [quiet] at he
      exact hfree id' (List.mem_cons_of_mem _ hid') e (List.mem_filter.1 he).1
    rw [List.foldl_cons]
    obtain ⟨h1, h2, h3, h4⟩ := foldl_dropHeld_quiet ids _ rest
    rw [h1, h2, h3, h4, quiet]
    exact ⟨rfl, rfl, rfl, rfl⟩

/-- When no entry is held by a lease whose time is up, the sweep commits nothing: the revision,
the history, the first retained revision and the pending batches stay. -/
theorem Consistent.expire_quiet (hc : s.Consistent)
    (hquiet : ∀ e ∈ s.entries, ∀ l ∈ s.leases, l.id = e.lease → LeaseRecord.isDue now l = false) :
    (s.expire now).revision = s.revision ∧ (s.expire now).history = s.history ∧
      (s.expire now).firstRetained = s.firstRetained ∧ (s.expire now).pending = s.pending := by
  rw [hc.expire_eq_dropHeld]
  apply foldl_dropHeld_quiet
  intro id hid e he same
  obtain ⟨l, hl, hdue, rfl⟩ := mem_dueLeases.1 hid
  rw [hquiet e he l hl same.symm] at hdue
  cases hdue

end Store

/-! ## The run after a watch -/

variable {log : List Batch}

/-- The invariant of a run after a watch `sub₀` opened on a store with journal `log`: the store
is logged with every batch committed since, the subscription differs from `sub₀` only in its
backlog and whether it is compacted, its receiver stays open, and as long as it is not
compacted the events delivered, then those it still holds, are what it must report. -/
structure Watching.Exact (log : List Batch) (sub₀ : Subscription) (w : Watching) : Prop where
  logged : Store.Logged (log ++ w.committed) w.store
  fixed : ∃ backlog compacted, w.sub = { sub₀ with backlog, compacted }
  isOpen : w.store.hub.IsOpen sub₀.receiver
  below : sub₀.receiver < w.store.hub.nextId
  exact : w.sub.compacted = false →
    w.delivered ++ w.sub.remaining w.store.hub = sub₀.filter.wanted sub₀.startRevision (log ++ w.committed)

/-- A call that does not touch the watch's receiver commits batches that reach the receiver,
and which the watch must report; a receive hands over a prefix of what the watch holds. -/
theorem Watching.Exact.step {sub₀ : Subscription} {w : Watching} (h : w.Exact log sub₀)
    (hcanc : sub₀.cancelled = false) (st : WatchStep)
    (hown : ∀ c, st = .call c → ¬ c.Touches sub₀.receiver) : (w.step st).Exact log sub₀ := by
  obtain ⟨hc, hj, hp, hf⟩ := h.logged.invariant
  obtain ⟨backlog, compacted, hsub⟩ := h.fixed
  cases st with
  | call c =>
    have hc' := hown c rfl
    obtain ⟨hopen, hqueue, hnext⟩ := c.prepared_hub hc hc' h.isOpen h.below
    have happly := c.apply_eq_publish hp
    have logged : Store.Logged (log ++ (w.committed ++ c.sent w.store)) (c.apply w.store) := by
      rw [← List.append_assoc]
      exact .call c h.logged
    -- the batches the call sends all carry their revision
    have stamped : ∀ b ∈ c.sent w.store, ∀ ev ∈ b.events, ev.kv.modRevision = b.revision := by
      intro b hb
      apply (hj.prepared hc c).stamped
      exact List.mem_append_right _ hb
    refine ⟨logged, ⟨backlog, compacted, hsub⟩, ?_, ?_, ?_⟩
    · show (c.apply w.store).hub.IsOpen sub₀.receiver
      rw [happly]
      exact (Hub.isOpen_sends _).2 hopen
    · show sub₀.receiver < (c.apply w.store).hub.nextId
      rw [happly]
      simp only [Store.publish, Hub.sends_nextId]
      have := h.below
      omega
    · intro hcomp
      have before := h.exact hcomp
      -- the receiver's queue grows by what the call sent
      have queue : (c.apply w.store).hub.queued sub₀.receiver =
          w.store.hub.queued sub₀.receiver ++ c.sent w.store := by
        rw [happly]
        simp only [Store.publish]
        rw [Hub.queued_sends hopen, hqueue]
        rfl
      have hrecv : w.sub.receiver = sub₀.receiver := by rw [hsub]
      have hselect : (c.sent w.store).flatMap w.sub.select =
          sub₀.filter.wanted sub₀.startRevision (c.sent w.store) := by
        rw [Subscription.flatMap_select stamped, hsub]
      have grow : w.sub.remaining (c.apply w.store).hub =
          w.sub.remaining w.store.hub ++ (c.sent w.store).flatMap w.sub.select := by
        rw [Subscription.remaining, Subscription.remaining, hrecv, queue, List.flatMap_append,
          List.append_assoc]
      show w.delivered ++ w.sub.remaining (c.apply w.store).hub =
        sub₀.filter.wanted sub₀.startRevision (log ++ (w.committed ++ c.sent w.store))
      calc w.delivered ++ w.sub.remaining (c.apply w.store).hub
          = (w.delivered ++ w.sub.remaining w.store.hub) ++ (c.sent w.store).flatMap w.sub.select := by
            rw [grow, List.append_assoc]
        _ = sub₀.filter.wanted sub₀.startRevision (log ++ w.committed) ++
              sub₀.filter.wanted sub₀.startRevision (c.sent w.store) := by
            rw [before, hselect]
        _ = sub₀.filter.wanted sub₀.startRevision (log ++ (w.committed ++ c.sent w.store)) := by
            rw [← List.append_assoc]
            exact KeyFilter.wanted_append.symm
  | recv =>
    -- a receive is the store's call that polls the watch: it commits nothing
    have logged : Store.Logged (log ++ w.committed) ((Store.Call.poll w.sub).apply w.store) := by
      have := Store.Logged.call (Store.Call.poll w.sub) h.logged
      have none : (Store.Call.poll w.sub).sent w.store = [] := hp
      rwa [none, List.append_nil] at this
    obtain ⟨backlog', compacted', hsub', hwait⟩ := Subscription.poll_sub w.sub w.store.hub
    have hrecv : w.sub.receiver = sub₀.receiver := by rw [hsub]
    refine ⟨logged, ⟨backlog', compacted', ?_⟩, ?_, ?_, ?_⟩
    · simp only [Watching.step, Store.poll]
      rw [hsub', hsub]
    · simp only [Watching.step, Store.poll]
      rcases Subscription.poll_hub w.sub w.store.hub with hh | ⟨q, hh⟩
      · rw [hh]; exact h.isOpen
      · rw [hh]; exact Hub.isOpen_setQueue.2 h.isOpen
    · simp only [Watching.step, Store.poll]
      rcases Subscription.poll_hub w.sub w.store.hub with hh | ⟨q, hh⟩
      · rw [hh]; exact h.below
      · rw [hh, Hub.setQueue_nextId]; exact h.below
    · intro hcomp
      simp only [Watching.step, Store.poll] at hcomp ⊢
      -- a watch that was compacted would have stayed so
      have live : w.sub.compacted = false := by
        by_contra dead
        have : (w.sub.poll w.store.hub).2.1 = w.sub := by
          unfold Subscription.poll
          rw [if_pos (by simpa using dead)]
        rw [this] at hcomp
        exact dead hcomp
      have open' : w.sub.cancelled = false := by rw [hsub]; exact hcanc
      obtain ⟨-, hdel, -⟩ := Subscription.poll_delivers (by rw [hrecv]; exact h.isOpen) live open' hcomp
      rw [List.append_assoc, hdel]
      exact h.exact live

/-- A run of steps, none of which touches the watch's receiver, keeps the invariant. -/
theorem Watching.Exact.run {sub₀ : Subscription} (hcanc : sub₀.cancelled = false) :
    ∀ (steps : List WatchStep) (w : Watching), w.Exact log sub₀ →
      (∀ c, WatchStep.call c ∈ steps → ¬ c.Touches sub₀.receiver) →
      (steps.foldl Watching.step w).Exact log sub₀
  | [], _, h, _ => h
  | st :: steps, w, h, hown => by
    rw [List.foldl_cons]
    apply Watching.Exact.run hcanc steps
    · exact h.step hcanc st fun c hc => hown c (by rw [← hc]; exact List.mem_cons_self)
    · exact fun c hc => hown c (List.mem_cons_of_mem _ hc)


namespace Store

variable {s : Store} {now : Nat} {filter : KeyFilter} {start : Revision}

theorem watchRun_eq (steps : List WatchStep) : s.watchRun now filter start steps =
    steps.foldl Watching.step
      ⟨(s.watch now filter start).1, (s.watch now filter start).2, [], []⟩ := rfl

/-- The watch call: the sweep, a receiver under the hub's next number, the subscription by its
start, and the sending of what the sweep committed. -/
theorem watch_eq : s.watch now filter start =
    (if start ≤ 0 then
        { filter, startRevision := (s.expire now).revision + 1, receiver := (s.expire now).hub.nextId }
      else if start < (s.expire now).firstRetained then
        { filter, startRevision := start, receiver := (s.expire now).hub.nextId, compacted := true }
      else
        { filter, startRevision := start, receiver := (s.expire now).hub.nextId,
          backlog := (((s.expire now).history.filter (·.revision ≥ start)).flatMap (·.events)).filter
            fun e => filter.covers e.kv.key },
      { s.expire now with hub := (s.expire now).hub.subscribe.1 }.publish) := rfl

/-- A watch opened when the sweep commits nothing, from a start still in the history, or from
the next revision: the run invariant holds from the start. -/
theorem Watching.Exact.opened (filter : KeyFilter) (hs : Logged log s)
    (hquiet : ∀ e ∈ s.entries, ∀ l ∈ s.leases, l.id = e.lease → LeaseRecord.isDue now l = false)
    (hstart : start ≤ 0 ∨ s.firstRetained ≤ start) :
    Watching.Exact log (s.watch now filter start).1
        ⟨(s.watch now filter start).1, (s.watch now filter start).2, [], []⟩ ∧
      (s.watch now filter start).1.cancelled = false ∧ (s.watch now filter start).1.filter = filter ∧
      (s.watch now filter start).1.startRevision = (if start ≤ 0 then s.revision + 1 else start) := by
  obtain ⟨hc, hj, hp, hf⟩ := hs.invariant
  obtain ⟨hrev, hhist, hfirst, hpend⟩ := hc.expire_quiet hquiet
  have hhub : (s.expire now).hub = s.hub := hc.expire_hub
  -- the new receiver is open and empty, and the sweep sent nothing to it
  obtain ⟨hopen, hempty⟩ := Hub.subscribe_self hf
  have store₀ : ({ s.expire now with hub := (s.expire now).hub.subscribe.1 } : Store).publish.hub =
      s.hub.subscribe.1 := by
    simp [Store.publish, hpend, hp, hhub]
  have logged : Logged (log ++ []) (s.watch now filter start).2 := by
    have := Logged.call (Call.watch now filter start) hs
    have none : (Call.watch now filter start).sent s = [] := by
      show (s.expire now).pending = []
      rw [hpend, hp]
    rwa [none] at this
  have hrecv : (s.watch now filter start).1.receiver = s.hub.nextId := by
    rw [watch_eq, hhub]
    split_ifs <;> rfl
  refine ⟨⟨logged, ⟨_, _, rfl⟩, ?_, ?_, ?_⟩, ?_, ?_, ?_⟩
  · rw [hrecv, watch_eq]
    dsimp only
    rw [store₀]
    exact hopen
  · rw [hrecv, watch_eq]
    dsimp only
    rw [store₀, Hub.subscribe_nextId]
    omega
  · intro hcomp
    have queue : (s.watch now filter start).2.hub.queued (s.watch now filter start).1.receiver = [] := by
      rw [hrecv, watch_eq]
      dsimp only
      rw [store₀]
      exact hempty
    simp only [List.nil_append, Subscription.remaining, queue, List.flatMap_nil, List.append_nil]
    obtain ⟨older, hL, hold⟩ := hj.retained
    rw [hp, List.append_nil] at hL
    rw [watch_eq] at hcomp ⊢
    split_ifs at hcomp ⊢ with hle hlt
    · -- from the next revision: nothing committed so far is wanted
      symm
      apply KeyFilter.wanted_of_lt
      intro b hb
      have := hj.consecutive.revision_le_top b (by rw [hp, List.append_nil]; exact hb)
      rw [hrev]
      grind
    · -- from a retained revision (an older start made the watch compacted): the backlog is what
      -- the history holds from the start on
      have hfr : s.firstRetained ≤ start := hstart.resolve_left hle
      dsimp only
      rw [hL, KeyFilter.wanted_append, KeyFilter.wanted_of_lt (fun b hb => by
        have := hold b hb
        grind), List.nil_append, hhist, KeyFilter.wanted, List.filter_flatMap]
  · rw [watch_eq]
    split_ifs <;> rfl
  · rw [watch_eq]
    split_ifs <;> rfl
  · rw [watch_eq, hrev]
    split_ifs <;> rfl

/-- Watch delivery is exact when the watch call's sweep commits nothing, that is when no entry
is held by a lease whose time is up at the watch's moment. Then, on a store reached from an
empty one with journal `log`, for a start still in the history or at most 0 (the next revision),
and along any run of calls and receives after it that neither receives on nor closes the
watch's receiver and in which the receiver never falls behind: the events delivered so far,
then those the watch still holds, are exactly the events on the filter's keys of every batch
committed from the start revision on, before the watch or after, each once and in commit order;
and once a receive would wait, everything has been delivered. -/
theorem watch_delivers_exactly {log : List Batch} (hs : Logged log s)
    (hquiet : ∀ e ∈ s.entries, ∀ l ∈ s.leases, l.id = e.lease → LeaseRecord.isDue now l = false)
    (hstart : start ≤ 0 ∨ s.firstRetained ≤ start) (steps : List WatchStep)
    (hown : ∀ c, WatchStep.call c ∈ steps → ¬ c.Touches (s.watch now filter start).1.receiver)
    (hlag : (s.watchRun now filter start steps).sub.compacted = false) :
    let w := s.watchRun now filter start steps
    let first := if start ≤ 0 then s.revision + 1 else start
    w.delivered ++ w.sub.remaining w.store.hub = filter.wanted first (log ++ w.committed) ∧
      ((w.store.poll w.sub).1 = .waiting → w.delivered = filter.wanted first (log ++ w.committed)) := by
  intro w first
  obtain ⟨opened, hcanc, hfilter, hfirst⟩ := Watching.Exact.opened filter hs hquiet hstart
  have run : w.Exact log (s.watch now filter start).1 := by
    rw [show w = _ from watchRun_eq steps]
    exact Watching.Exact.run hcanc steps _ opened hown
  have exact := run.exact hlag
  rw [hfilter, hfirst] at exact
  refine ⟨exact, fun hwait => ?_⟩
  -- a receive that waits finds nothing left to deliver
  obtain ⟨backlog, compacted, hsub⟩ := run.fixed
  obtain ⟨-, -, -, same⟩ := Subscription.poll_sub w.sub w.store.hub
  have hopen : w.store.hub.IsOpen w.sub.receiver := by rw [hsub]; exact run.isOpen
  have open' : w.sub.cancelled = false := by rw [hsub]; exact hcanc
  obtain ⟨-, -, hnone, -, -⟩ :=
    Subscription.poll_delivers hopen hlag open' (by rw [same hwait]; exact hlag)
  rw [hnone hwait, List.append_nil] at exact
  exact exact

/-- A watch from the next revision on an empty store, then a put under its prefix and a receive. -/
theorem watch_then_put_exact :
    let w := (Store.make 4 4).watchRun 0 (.startingWith "/a/") 0
      [.call (.put 0 "/a/x" "1" .detach), .recv]
    let first := if (0 : Revision) ≤ 0 then (Store.make 4 4).revision + 1 else 0
    w.delivered ++ w.sub.remaining w.store.hub =
        KeyFilter.wanted (.startingWith "/a/") first ([] ++ w.committed) ∧
      ((w.store.poll w.sub).1 = .waiting →
        w.delivered = KeyFilter.wanted (.startingWith "/a/") first ([] ++ w.committed)) :=
  watch_delivers_exactly (.make 4 4) (by simp [Store.make]) (.inl le_rfl) _
    (by
      intro c hc
      simp only [List.mem_cons, reduceCtorEq, or_false, WatchStep.call.injEq,
        List.not_mem_nil] at hc
      subst hc
      simp [Call.Touches])
    (by decide +kernel)

/-- Both ways the watch call's own sweep breaks exactness, on a lease granted at 0 for ten
seconds that holds "/w/a" (put at revision 2) and a watch from revision 2 at ten seconds, when
the lease is due and its sweep deletes the key at revision 3. With a history of one batch the
sweep pushes revision 2 out before the start is checked, and the watch is compacted although
its start was retained when it was called. With a long history the delete at revision 3 is both
in the backlog and on the receiver, and two receives deliver it twice. -/
theorem watch_own_sweep_breaks_exactness :
    (let s := (Call.put 0 "/w/a" "1" (.attach 1)).apply ((Call.grant 0 10).apply (Store.make 1 1024))
     s.firstRetained ≤ 2 ∧ (s.watch 10000 (.startingWith "/w/") 2).1.compacted = true) ∧
    (let s := (Call.put 0 "/w/a" "1" (.attach 1)).apply
        ((Call.grant 0 10).apply (Store.make 4096 1024))
     s.firstRetained ≤ 2 ∧
       (s.watchRun 10000 (.startingWith "/w/") 2 [.recv, .recv]).delivered.map (·.kv.modRevision) =
         [2, 3, 3]) := by
  decide +kernel

end Store

end ControlPlane
