import ControlPlane.Proofs.Registry.FirstChange
import ControlPlane.Proofs.Plane.WatchStart

/-!
# A configuration watch answers the first change

A configuration watch opens a subscription on one key, the configuration's, from a start
revision on, and waits for a receive that gives something. Unlike a service watch it does not
read the store again: it answers from the first event the receive gives, the item as written for
a put (once the ledger has recorded that the node observed its version), the deleted failure for
a delete. When the time is up first, it answers the deadline failure.

Read against the journal of the store it opened on, that is the following. At each look while
the watch waits and its receiver has not fallen behind, the first event on the key of the batches
committed from the first revision on decides the answer, and with none the watch answers the
deadline failure once its time is up and keeps waiting before
(`config_watch_answers_first_change`). Like the service watch this needs the exact delivery of
`Delivery`: the sweep of the watch call commits nothing.

Only the first event is answered. A transaction that writes the key twice commits both events
under one revision, and a watch from that revision on answers the first; asked again from the
revision after, it never sees the second (`second_write_in_one_revision_unseen`).

1. The run invariant of `Delivery`, kept with nothing delivered along any run of a watch of any
   kind (`WatchRun.keeps_exact`).
2. A receive that has something to hand over hands the first wanted event first
   (`Subscription.poll_first`), and what a configuration watch answers to it.
3. One look (`Watching.Exact.look_config`).
-/

namespace ControlPlane

open ControlPlane.Action

/-! ## The run invariant from the opening on -/

/-- A watch of any kind, opened when the sweep of its call commits nothing, from a start still in
the history or from the next revision, keeps exact delivery with nothing delivered for as long as
it waits, along any run of other clients' calls that leave its receiver alone, time passing and
looks. -/
theorem WatchRun.keeps_exact {p : Plane} {log : List Batch} (hs : Store.Logged log p.store)
    (hquiet : ∀ e ∈ p.store.entries, ∀ l ∈ p.store.leases, l.id = e.lease →
      Store.LeaseRecord.isDue p.clock l = false)
    (kind : WatchKind) (filter : KeyFilter) {start : Revision} (timeoutMs : Nat)
    (hstart : start ≤ 0 ∨ p.store.firstRetained ≤ start) (moves : List WatchMove)
    (hown : ∀ c, WatchMove.call c ∈ moves → ¬ c.Touches p.store.hub.nextId) :
    (moves.foldl WatchRun.move (WatchRun.opening p kind filter start timeoutMs)).Keeps
      (Waiter.opened p kind filter start timeoutMs) fun s bs =>
        Watching.Exact log (Waiter.opened p kind filter start timeoutMs).sub
          ⟨(Waiter.opened p kind filter start timeoutMs).sub, s, [], bs⟩ := by
  obtain ⟨-, hrecv⟩ := Store.watch_live hs hquiet hstart filter
  obtain ⟨opening, hcanc, -, -⟩ := Store.Watching.Exact.opened filter hs hquiet hstart
  apply WatchRun.Keeps.run rfl
  · -- a call that leaves the receiver alone is a step of the delivery run
    intro s bs c hq hc
    exact hq.step hcanc (.call c) fun c' hc' => by cases hc'; exact hc
  · -- a receive that finds nothing leaves the subscription and delivers nothing
    intro s bs hq hwait
    have step := hq.step hcanc .recv (fun c hc => by cases hc)
    have unchanged := Subscription.poll_sub_of_waiting hwait
    simp only [Watching.step, Store.poll, hwait, unchanged, Poll.delivered,
      List.append_nil] at step
    exact step
  · exact WatchRun.Keeps.opening opening
  · intro c hc
    rw [show (Waiter.opened p kind filter start timeoutMs).sub.receiver = p.store.hub.nextId
      from hrecv]
    exact hown c hc

/-! ## The first event and its answer -/

/-- A receive on a live watch whose receiver has not fallen behind, with something left to hand
over, is ready with events, and the first of them is the first the watch holds. -/
theorem Subscription.poll_first {sub : Subscription} {hub : Hub} (hopen : hub.IsOpen sub.receiver)
    (hcomp : sub.compacted = false) (hcanc : sub.cancelled = false)
    (hfit : (hub.queued sub.receiver).length ≤ hub.capacity) {e : WatchEvent}
    {rest : List WatchEvent} (hrem : sub.remaining hub = e :: rest) :
    ∃ evs, (sub.poll hub).1 = .ready (.ok (e :: evs)) := by
  have hlag : (sub.poll hub).2.1.compacted = false := by
    rw [Subscription.poll_of_fits hopen hfit, hcomp]
  obtain ⟨-, hdel, hnone, -⟩ := Subscription.poll_delivers hopen hcomp hcanc hlag
  rcases Subscription.poll_result hub hcomp hcanc with hw | ⟨evs, hr, hne⟩ | ⟨_, -, -, hc⟩
  · -- a receive that waits would leave nothing to hand over
    rw [hnone hw] at hrem
    cases hrem
  · -- what it hands over is a non-empty prefix of what the watch held
    rw [hr, hrem] at hdel
    cases evs with
    | nil => exact absurd rfl hne
    | cons x evs =>
      have head : x = e := (List.cons.inj hdel).1
      exact ⟨evs, by rw [hr, head]⟩
  · rw [hlag] at hc
    cases hc

/-- On events, a configuration watch answers from the first: the item as written and its
revision for a put, once the ledger has recorded the observed version, and the deleted failure
for a delete. -/
theorem configAnswer_first (appId : Int) (node name : String) (e : WatchEvent)
    (evs : List WatchEvent) (q : Plane) :
    ((configAnswer appId node name (.ok (e :: evs))).exec q).1 =
      if e.kind == .put then
        (q.index.recordObserved appId node name e.kv.modRevision).map fun _ =>
          (⟨name, e.kv.value, e.kv.modRevision⟩, e.kv.modRevision)
      else .error ⟨.deleted, name⟩ := by
  unfold configAnswer
  dsimp only
  split_ifs
  · rw [exec_bind, exec_onIndexWrite]
    dsimp only [ConfigItem.ofEntry]
    cases q.index.recordObserved appId node name e.kv.modRevision <;> rfl
  · rfl

theorem configAnswer_timeout (appId : Int) (node name : String) (q : Plane) :
    ((configAnswer appId node name (.error ⟨.deadlineExceeded, "watch timed out"⟩)).exec q).1 =
      .error ⟨.deadlineExceeded, "watch config fail"⟩ := rfl

/-! ## One look at a configuration watch -/

/-- A look at a configuration watch that waits, with nothing delivered yet, exact delivery and a
receiver that has not fallen behind: the first event its filter wants from its start on decides
the answer, and with none it answers the deadline failure once its time is up and else keeps
waiting as it was. -/
theorem Watching.Exact.look_config {log : List Batch} {w : Waiter} {r : WatchRun}
    (hx : Watching.Exact log w.sub ⟨w.sub, r.plane.store, [], r.committed⟩)
    (hst : r.state = .waiting w) {appId : Int} {node name : String}
    (hkind : w.kind = .config appId node name) (hcanc : w.cancelled = false)
    (hsub : w.sub.cancelled = false) (hlive : w.sub.compacted = false)
    (hfit : (r.plane.store.hub.queued w.sub.receiver).length ≤ r.plane.store.hub.capacity) :
    (r.move .look).state =
      match w.sub.filter.wanted w.sub.startRevision (log ++ r.committed) with
      | [] =>
        if w.deadline ≤ r.plane.clock then .done (.config (.error ⟨.deadlineExceeded, "watch config fail"⟩))
        else .waiting w
      | e :: _ =>
        .done (.config (if e.kind == .put then
          (r.plane.index.recordObserved appId node name e.kv.modRevision).map fun _ =>
            (⟨name, e.kv.value, e.kv.modRevision⟩, e.kv.modRevision)
        else .error ⟨.deleted, name⟩)) := by
  have hopen : r.plane.store.hub.IsOpen w.sub.receiver := hx.isOpen
  -- with nothing delivered yet, what the watch still holds is what it must report
  have remaining : w.sub.remaining r.plane.store.hub =
      w.sub.filter.wanted w.sub.startRevision (log ++ r.committed) := by
    simpa using hx.exact hlive
  rcases hpoll : w.sub.poll r.plane.store.hub with ⟨poll, sub, hub⟩
  rcases hwanted : w.sub.filter.wanted w.sub.startRevision (log ++ r.committed) with _ | ⟨e, rest⟩
  · -- nothing wanted: the receive waits, and the deadline decides
    have waits := Subscription.poll_waits hopen hlive hsub (remaining.trans hwanted) hfit
    rw [hpoll] at waits
    subst waits
    dsimp only
    split_ifs with hdue
    · rw [WatchRun.look_due hst hcanc hpoll hdue, hkind, WatchKind.answer_config_run,
        configAnswer_timeout]
    · rw [WatchRun.look_stays hst hcanc hpoll hdue]
  · -- the receive hands over events, the first wanted one first
    obtain ⟨evs, hready⟩ :=
      Subscription.poll_first hopen hlive hsub hfit (remaining.trans hwanted)
    rw [hpoll] at hready
    subst hready
    rw [WatchRun.look_ready hst hpoll, hkind, WatchKind.answer_config_run, configAnswer_first]

/-- A configuration watch on a store reached from an empty one with journal `log`, opened when no
entry is held by a lease whose time is up (so the watch call's own sweep commits nothing), for a
checked name, from a start still in the history or at most 0 (the next revision), and followed by
any interleaving of other clients' store calls that leave its receiver alone, time passing, and
looks at it. Opening it is its opening and a first look; and at every look while it waits with a
receiver that has not fallen behind, the first event on the configuration's key of the batches
committed from the first revision on decides: a put answers the item with the event's value,
versioned by its revision, and that revision, once the ledger has recorded the observed version;
a delete answers deleted. With no such event it answers the deadline failure once its time is up
and waits on, unchanged, before. -/
theorem config_watch_answers_first_change {p : Plane} {log : List Batch}
    (hs : Store.Logged log p.store)
    (hquiet : ∀ e ∈ p.store.entries, ∀ l ∈ p.store.leases, l.id = e.lease →
      Store.LeaseRecord.isDue p.clock l = false)
    (appId : Int) (node : String) {name : String} {start : Revision} (timeoutMs : Nat)
    (hname : checkName name = .ok ()) (hstart : start ≤ 0 ∨ p.store.firstRetained ≤ start)
    (moves : List WatchMove) (hown : ∀ c, WatchMove.call c ∈ moves → ¬ c.Touches p.store.hub.nextId) :
    let key := p.keyspace.configKey name
    let first := if start ≤ 0 then p.store.revision + 1 else start
    let opened := WatchRun.opening p (.config appId node name) (.exact key) start timeoutMs
    let r := moves.foldl WatchRun.move opened
    (startWatch (.config appId node name) start timeoutMs false).run p =
        ((opened.move .look).state, (opened.move .look).plane) ∧
      ∀ w, r.state = .waiting w →
        (r.plane.store.hub.queued w.sub.receiver).length ≤ r.plane.store.hub.capacity →
        (r.move .look).state =
          match (KeyFilter.exact key).wanted first (log ++ r.committed) with
          | [] =>
            if p.clock + timeoutMs ≤ r.plane.clock then
              .done (.config (.error ⟨.deadlineExceeded, "watch config fail"⟩))
            else .waiting w
          | e :: _ =>
            .done (.config (if e.kind == .put then
              (r.plane.index.recordObserved appId node name e.kv.modRevision).map fun _ =>
                (⟨name, e.kv.value, e.kv.modRevision⟩, e.kv.modRevision)
            else .error ⟨.deleted, name⟩)) := by
  intro key first opened r
  have hfilter : (WatchKind.config appId node name).filter p.keyspace = .ok (.exact key) := by
    simp only [WatchKind.filter, hname]
    rfl
  refine ⟨startWatch_run p hfilter (fun f h => by cases h) start timeoutMs, ?_⟩
  intro w hw hfit
  obtain ⟨hlive, -⟩ := Store.watch_live hs hquiet hstart (.exact key)
  obtain ⟨-, hcanc, hfilt, hfirst⟩ := Store.Watching.Exact.opened (.exact key) hs hquiet hstart
  -- the waiting watch is the one that opened, and delivery is still exact with nothing delivered
  obtain ⟨rfl, hx⟩ := WatchRun.keeps_exact hs hquiet (.config appId node name) (.exact key)
    timeoutMs hstart moves hown w hw
  rw [hx.look_config hw rfl rfl hcanc hlive hfit]
  rw [show (Waiter.opened p (.config appId node name) (.exact key) start timeoutMs).sub.filter =
      .exact key from hfilt,
    show (Waiter.opened p (.config appId node name) (.exact key) start timeoutMs).sub.startRevision =
      first from hfirst]
  rfl


/-- A watch of one configuration from the next revision on an empty store, with 100 ms to wait,
while another client puts its key. -/
theorem config_watch_on_empty_store :
    let p : Plane := { store := Store.make 4096 1024 }
    let moves := [WatchMove.call (.put 0 "/configs/feature.flags" "on" .detach), .wait 50]
    Store.Logged [] p.store ∧ checkName "feature.flags" = .ok () ∧
      let key := p.keyspace.configKey "feature.flags"
      let first := if (0 : Revision) ≤ 0 then p.store.revision + 1 else 0
      let opened := WatchRun.opening p (.config 0 "" "feature.flags") (.exact key) 0 100
      let r := moves.foldl WatchRun.move opened
      (startWatch (.config 0 "" "feature.flags") 0 100 false).run p =
          ((opened.move .look).state, (opened.move .look).plane) ∧
        ∀ w, r.state = .waiting w →
          (r.plane.store.hub.queued w.sub.receiver).length ≤ r.plane.store.hub.capacity →
          (r.move .look).state =
            match (KeyFilter.exact key).wanted first ([] ++ r.committed) with
            | [] =>
              if p.clock + 100 ≤ r.plane.clock then
                .done (.config (.error ⟨.deadlineExceeded, "watch config fail"⟩))
              else .waiting w
            | e :: _ =>
              .done (.config (if e.kind == .put then
                (r.plane.index.recordObserved 0 "" "feature.flags" e.kv.modRevision).map fun _ =>
                  (⟨"feature.flags", e.kv.value, e.kv.modRevision⟩, e.kv.modRevision)
              else .error ⟨.deleted, "feature.flags"⟩)) :=
  ⟨.make 4096 1024, rfl,
    config_watch_answers_first_change (.make 4096 1024) (by simp [Store.make]) 0 "" 100 rfl
      (.inl le_rfl) _ (by
        intro c hc
        simp only [List.mem_cons, WatchMove.call.injEq, reduceCtorEq, List.not_mem_nil,
          or_false] at hc
        subst hc
        simp [Store.Call.Touches])⟩

/-- Only the first change of a revision is answered. On an empty store, one transaction puts
"v1" and then "v2" under the configuration's key, both at revision 2, and "v2" is what the key
holds. A watch from revision 2 answers "v1" at revision 2; asked again from revision 3 it finds
nothing, waits, and answers the deadline failure once its 100 ms are up, so "v2" is never
reported. -/
theorem second_write_in_one_revision_unseen :
    let s := (Store.Call.txn 0 ⟨[], [.put "/configs/feature.flags" "v1" .detach,
      .put "/configs/feature.flags" "v2" .detach], []⟩).apply (Store.make 4096 1024)
    let p : Plane := { store := s }
    let watch := WatchKind.config 0 "" "feature.flags"
    let again := WatchRun.opening p watch (.exact "/configs/feature.flags") 3 100
    (s.find? "/configs/feature.flags").map (fun kv => (kv.value, kv.modRevision)) = some ("v2", 2) ∧
      (match ((startWatch watch 2 100 false).run p).1 with
        | .done (.config (.ok (item, rev))) => item.value == "v1" && item.version == 2 && rev == 2
        | _ => false) = true ∧
      (match (again.move .look).state with
        | .waiting _ => true
        | _ => false) = true ∧
      (match (((again.move .look).move (.wait 100)).move .look).state with
        | .done (.config (.error e)) => e.kind == .deadlineExceeded
        | _ => false) = true := by
  decide +kernel

end ControlPlane
