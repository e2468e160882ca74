import ControlPlane.Proofs.Plane.Waiting
import ControlPlane.Proofs.Registry.Query

/-!
# A service watch answers the first change

A service watch opens a subscription on the keys under the service's scan start, from a start
revision on, and waits for a receive that gives something. Whatever the receive gives, events or
the compacted failure, the watch then answers a fresh query, a service not found reported
deleted; when the time is up first, it answers the deadline failure.

Read against the journal of the store it opened on, that is the following. At each look while
the watch waits, it answers the query of the moment when a change under the scan start was
committed from the first revision on, or when its receiver fell behind the hub; otherwise it
answers the deadline failure once its time is up, and keeps waiting, unchanged, before
(`service_watch_answers_first_change`). This needs the exact delivery of `Delivery`, hence the
same condition: the sweep of the watch call commits nothing.

1. The sweep never reads the hub, so neither does the query (`snapshot_withHub`).
2. What a service watch answers to a receive, and to the end of its time.
3. One look, with the run invariant `Watching.Exact` (`Exact.look_service`).
-/

namespace ControlPlane

open ControlPlane.Action

/-! ## The sweep and the hub -/

namespace Store

variable (h : Hub)

theorem deleteEntry_withHub (s : Store) (rev : Revision) (key : String) :
    ({ s with hub := h } : Store).deleteEntry rev key =
      ({ (s.deleteEntry rev key).1 with hub := h }, (s.deleteEntry rev key).2) := by
  have same : ({ s with hub := h } : Store).find? key = s.find? key := rfl
  unfold deleteEntry
  rw [same]
  cases s.find? key <;> rfl

theorem commit_withHub (s : Store) (rev : Revision) (events : List WatchEvent) :
    ({ s with hub := h } : Store).commit rev events = { s.commit rev events with hub := h } := by
  unfold commit
  split <;> rfl

theorem foldl_deleteEntry_withHub (rev : Revision) :
    ∀ (keys : List String) (t : Store) (events : List WatchEvent),
      keys.foldl (fun acc k => ((acc.1.deleteEntry rev k).1, acc.2 ++ (acc.1.deleteEntry rev k).2.toList))
          ({ t with hub := h }, events) =
        ({ (keys.foldl (fun acc k => ((acc.1.deleteEntry rev k).1,
              acc.2 ++ (acc.1.deleteEntry rev k).2.toList)) (t, events)).1 with hub := h },
          (keys.foldl (fun acc k => ((acc.1.deleteEntry rev k).1,
              acc.2 ++ (acc.1.deleteEntry rev k).2.toList)) (t, events)).2)
  | [], _, _ => rfl
  | k :: keys, t, events => by
    simp only [List.foldl_cons, deleteEntry_withHub]
    exact foldl_deleteEntry_withHub rev keys _ _

theorem dropLease_withHub (s : Store) (id : LeaseId) :
    ({ s with hub := h } : Store).dropLease id = { s.dropLease id with hub := h } := by
  have same : ({ s with hub := h } : Store).leases.find? (·.id == id) =
      s.leases.find? (·.id == id) := rfl
  unfold dropLease
  rw [same]
  cases s.leases.find? (·.id == id) with
  | none => rfl
  | some l =>
    have keys := foldl_deleteEntry_withHub h (s.revision + 1) l.keys
      { s with leases := s.leases.filter (·.id != id) } []
    dsimp only at keys ⊢
    rw [keys, commit_withHub]

theorem expire_withHub (s : Store) (now : Nat) :
    ({ s with hub := h } : Store).expire now = { s.expire now with hub := h } := by
  unfold expire
  generalize ((s.leases.filter (LeaseRecord.isDue now)).map (·.id)).mergeSort (· ≤ ·) = due
  induction due generalizing s with
  | nil => rfl
  | cons id due ih => rw [List.foldl_cons, List.foldl_cons, dropLease_withHub, ih]

end Store

/-- The snapshot reads the store through its sweep: the hub the store has does not change what
the snapshot answers. -/
theorem snapshot_withHub (p : Plane) (hc : p.store.Consistent) (h : Hub) {service : String}
    {zone : Option String} (client : Option IpAddr) {start : String}
    (hstart : scanStart p.keyspace service zone = .ok start) :
    ((snapshot service zone client).exec { p with store := { p.store with hub := h } }).1 =
      ((snapshot service zone client).exec p).1 := by
  rw [snapshot_eq_answer { p with store := { p.store with hub := h } }
      (hc.congr rfl rfl rfl rfl rfl rfl) client hstart, snapshot_eq_answer p hc client hstart]
  dsimp only
  rw [Store.expire_withHub]

/-! ## What a service watch answers -/

/-- How a service watch reports a failed snapshot: a service that is not found was deleted. -/
def serviceGone (service : String) (e : Error) : Error :=
  if e.kind == .notFound then ⟨.deleted, "service " ++ service ++ " deleted"⟩ else e

/-- On a receive that gave events or the compacted failure, a service watch answers the snapshot
of the moment, a service not found reported deleted. -/
theorem serviceAnswer_of_ready {service : String} {zone : Option String} {client : Option IpAddr}
    {r : Except StoreError (List WatchEvent)}
    (hr : (∃ evs, r = .ok evs) ∨ ∃ e, r = .error e ∧ e.status = .compacted) (q : Plane) :
    ((serviceAnswer service zone client r).exec q).1 =
      ((snapshot service zone client).exec q).1.mapError (serviceGone service) := by
  -- past the receive, the answer is the snapshot's, with not found turned into deleted
  have answers : ((tryCatch (snapshot service zone client) fun e =>
      if e.kind == .notFound then throw ⟨.deleted, "service " ++ service ++ " deleted"⟩
      else throw e : Action (ServiceSnapshot × Revision)).exec q).1 =
        ((snapshot service zone client).exec q).1.mapError (serviceGone service) := by
    rw [exec_tryCatch]
    rcases (snapshot service zone client).exec q with ⟨e | _, q'⟩
    · show ((if e.kind == .notFound then throw ⟨.deleted, "service " ++ service ++ " deleted"⟩
          else throw e : Action (ServiceSnapshot × Revision)).exec q').1 = .error (serviceGone service e)
      unfold serviceGone
      split_ifs <;> rfl
    · rfl
  rcases hr with ⟨evs, rfl⟩ | ⟨e, rfl, he⟩
  · exact answers
  · unfold serviceAnswer
    dsimp only
    rw [if_pos (by rw [he]; rfl)]
    exact answers

theorem serviceAnswer_timeout (service : String) (zone : Option String) (client : Option IpAddr)
    (q : Plane) :
    ((serviceAnswer service zone client (.error ⟨.deadlineExceeded, "watch timed out"⟩)).exec q).1 =
      .error ⟨.deadlineExceeded, "watch fail"⟩ := rfl

theorem WatchKind.answer_service_run (service : String) (zone : Option String)
    (client : Option IpAddr) (r : Except StoreError (List WatchEvent)) (q : Plane) :
    ((WatchState.done <$> (WatchKind.service service zone client).answer r).run q).1 =
      .done (.service ((serviceAnswer service zone client r).exec q).1) := by
  show WatchState.done (.service ((recorded .watch (serviceAnswer service zone client r)).exec q).1) = _
  rw [exec_recorded]

/-! ## One look at a service watch -/

theorem Store.watch_opens (s : Store) (now : Nat) (filter : KeyFilter) (start : Revision) :
    (s.watch now filter start).1.receiver = (s.expire now).hub.nextId ∧
      (s.watch now filter start).1.cancelled = false := by
  rw [Store.watch_eq]
  split_ifs <;> exact ⟨rfl, rfl⟩

/-- The subscription of a watch opened when its sweep commits nothing, from a start still in
the history or from the next revision, is not compacted, and its receiver is the hub's next
number. -/
theorem Store.watch_live {s : Store} {log : List Batch} (hs : Store.Logged log s) {now : Nat}
    (hquiet : ∀ e ∈ s.entries, ∀ l ∈ s.leases, l.id = e.lease →
      Store.LeaseRecord.isDue now l = false)
    {start : Revision} (hstart : start ≤ 0 ∨ s.firstRetained ≤ start) (filter : KeyFilter) :
    (s.watch now filter start).1.compacted = false ∧ (s.watch now filter start).1.receiver = s.hub.nextId := by
  obtain ⟨hc, -, -, -⟩ := hs.invariant
  obtain ⟨-, -, hfirst, -⟩ := hc.expire_quiet hquiet
  rw [Store.watch_eq, hfirst, hc.expire_hub]
  split_ifs with hle hlt
  · exact ⟨rfl, rfl⟩
  · exact absurd hlt (not_lt.2 (hstart.resolve_left hle))
  · exact ⟨rfl, rfl⟩

/-- A look at a service watch that waits, with nothing delivered yet and exact delivery: it
answers the snapshot of the moment, a service not found reported deleted, when something its
filter wants was committed from its start on or its receiver fell behind; otherwise it answers
the deadline failure once its time is up, and else it keeps waiting as it was. -/
theorem Watching.Exact.look_service {log : List Batch} {w : Waiter} {r : WatchRun}
    (hx : Watching.Exact log w.sub ⟨w.sub, r.plane.store, [], r.committed⟩)
    (hst : r.state = .waiting w) {service : String} {zone : Option String}
    {client : Option IpAddr} (hkind : w.kind = .service service zone client)
    (hcanc : w.cancelled = false) (hsub : w.sub.cancelled = false) (hlive : w.sub.compacted = false)
    {start : String} (hstart : scanStart r.plane.keyspace service zone = .ok start) :
    (r.move .look).state =
      if w.sub.filter.wanted w.sub.startRevision (log ++ r.committed) = [] ∧
          (r.plane.store.hub.queued w.sub.receiver).length ≤ r.plane.store.hub.capacity then
        if w.deadline ≤ r.plane.clock then .done (.service (.error ⟨.deadlineExceeded, "watch fail"⟩))
        else .waiting w
      else .done (.service (((query service zone client).exec r.plane).1.mapError
        (serviceGone service))) := by
  have hopen : r.plane.store.hub.IsOpen w.sub.receiver := hx.isOpen
  -- with nothing delivered yet, what the watch still holds is what it must report
  have remaining : w.sub.remaining r.plane.store.hub =
      w.sub.filter.wanted w.sub.startRevision (log ++ r.committed) := by
    simpa using hx.exact hlive
  have hc : r.plane.store.Consistent := hx.logged.invariant.1
  rcases hpoll : w.sub.poll r.plane.store.hub with ⟨poll, sub, hub⟩
  by_cases quiet : w.sub.filter.wanted w.sub.startRevision (log ++ r.committed) = [] ∧
      (r.plane.store.hub.queued w.sub.receiver).length ≤ r.plane.store.hub.capacity
  · -- nothing wanted and no lag: the receive waits, and the deadline decides
    have waits := Subscription.poll_waits hopen hlive hsub (remaining.trans quiet.1) quiet.2
    rw [hpoll] at waits
    subst waits
    rw [if_pos quiet]
    split_ifs with hdue
    · rw [WatchRun.look_due hst hcanc hpoll hdue, hkind, WatchKind.answer_service_run,
        serviceAnswer_timeout]
    · rw [WatchRun.look_stays hst hcanc hpoll hdue]
  · -- something wanted, or a receiver that fell behind: the receive is ready
    rw [if_neg quiet]
    obtain ⟨res, hres, hready⟩ := Subscription.poll_ready hopen hlive hsub (by rwa [remaining])
    rw [hpoll] at hres
    subst hres
    rw [WatchRun.look_ready hst hpoll, hkind, WatchKind.answer_service_run,
      serviceAnswer_of_ready hready,
      snapshot_withHub r.plane hc _ client hstart, query, exec_recorded]

/-- A service watch on a store reached from an empty one with journal `log`, opened when no
entry is held by a lease whose time is up (so the watch call's own sweep commits nothing), for a
checked service and optional zone, from a start still in the history or at most 0 (the next
revision), and followed by any interleaving of other clients' store calls that leave its
receiver alone, time passing, and looks at it. Opening it is its opening and a first look; and
at every look while it waits: when nothing under the scan start was committed from the first
revision on and the receiver has not fallen behind, it answers the deadline failure once its time
is up and otherwise waits on unchanged; when something was, or the receiver fell behind, it
answers what the query answers at that moment, a service not found reported deleted. -/
theorem service_watch_answers_first_change {p : Plane} {log : List Batch}
    (hs : Store.Logged log p.store)
    (hquiet : ∀ e ∈ p.store.entries, ∀ l ∈ p.store.leases, l.id = e.lease →
      Store.LeaseRecord.isDue p.clock l = false)
    {service : String} {zone : Option String} (client : Option IpAddr) {start : Revision}
    (timeoutMs : Nat) (hsvc : checkService service = .ok ())
    (hzone : ∀ z, zone = some z → checkZone z = .ok ())
    (hstart : start ≤ 0 ∨ p.store.firstRetained ≤ start) (moves : List WatchMove)
    (hown : ∀ c, WatchMove.call c ∈ moves → ¬ c.Touches p.store.hub.nextId) :
    let scan := match zone with
      | some z => p.keyspace.zoneScanStart service z
      | none => p.keyspace.serviceScanStart service
    let first := if start ≤ 0 then p.store.revision + 1 else start
    let opened := WatchRun.opening p (.service service zone client) (.startingWith scan) start timeoutMs
    let r := moves.foldl WatchRun.move opened
    (startWatch (.service service zone client) start timeoutMs false).run p =
        ((opened.move .look).state, (opened.move .look).plane) ∧
      ∀ w, r.state = .waiting w →
        (r.move .look).state =
          if (KeyFilter.startingWith scan).wanted first (log ++ r.committed) = [] ∧
              (r.plane.store.hub.queued w.sub.receiver).length ≤ r.plane.store.hub.capacity then
            if p.clock + timeoutMs ≤ r.plane.clock then
              .done (.service (.error ⟨.deadlineExceeded, "watch fail"⟩))
            else .waiting w
          else .done (.service (((query service zone client).exec r.plane).1.mapError
            (serviceGone service))) := by
  intro scan first opened r
  -- a checked service and zone have a scan start under every keyspace
  have scans : ∀ ks : KeySpace, ∃ s, scanStart ks service zone = .ok s := fun ks => by
    obtain ⟨whole, inZone⟩ := scanStart_of_checks ks hsvc
    cases zone with
    | none => exact ⟨_, whole⟩
    | some z => exact ⟨_, inZone z (hzone z rfl)⟩
  have hfilter : (WatchKind.service service zone client).filter p.keyspace =
      .ok (.startingWith scan) := by
    obtain ⟨whole, inZone⟩ := scanStart_of_checks p.keyspace hsvc
    cases zone with
    | none => simp only [WatchKind.filter, whole]; rfl
    | some z => simp only [WatchKind.filter, inZone z (hzone z rfl)]; rfl
  refine ⟨startWatch_run p hfilter (fun f h => by cases h) start timeoutMs, ?_⟩
  intro w hw
  let w₀ := Waiter.opened p (.service service zone client) (.startingWith scan) start timeoutMs
  obtain ⟨hlive, hrecv⟩ := Store.watch_live hs hquiet hstart (.startingWith scan)
  obtain ⟨opening, hcanc, hfilt, hfirst⟩ :=
    Store.Watching.Exact.opened (.startingWith scan) hs hquiet hstart
  -- the run keeps exact delivery with nothing delivered, as long as the watch waits
  have keeps : r.Keeps w₀ fun s bs => Watching.Exact log w₀.sub ⟨w₀.sub, s, [], bs⟩ := by
    apply WatchRun.Keeps.run rfl
    · intro s bs c hq hc
      exact hq.step hcanc (.call c) fun c' hc' => by cases hc'; exact hc
    · intro s bs hq hwait
      have step := hq.step hcanc .recv (fun c hc => by cases hc)
      have unchanged := Subscription.poll_sub_of_waiting hwait
      simp only [Watching.step, Store.poll, hwait, unchanged, Poll.delivered,
        List.append_nil] at step
      exact step
    · exact WatchRun.Keeps.opening opening
    · intro c hc
      rw [show w₀.sub.receiver = p.store.hub.nextId from hrecv]
      exact hown c hc
  obtain ⟨rfl, hx⟩ := keeps w hw
  obtain ⟨s, hscan⟩ := scans r.plane.keyspace
  rw [hx.look_service hw rfl rfl hcanc hlive hscan]
  rw [show w₀.sub.filter = .startingWith scan from hfilt,
    show w₀.sub.startRevision = first from hfirst]
  rfl

/-- A watch of one service from the next revision on an empty store, with 100 ms to wait, while
another client puts one of its endpoint keys. -/
theorem service_watch_on_empty_store :
    let p : Plane := { store := Store.make 4096 1024 }
    let moves := [WatchMove.call
      (.put 0 "/services/orders:1.0/dc-1/node_10.0.0.5:9000" "10.0.0.5:9000" .detach), .wait 50]
    Store.Logged [] p.store ∧ checkService "orders:1.0" = .ok () ∧
      let scan := p.keyspace.serviceScanStart "orders:1.0"
      let first := if (0 : Revision) ≤ 0 then p.store.revision + 1 else 0
      let opened := WatchRun.opening p (.service "orders:1.0" none none) (.startingWith scan) 0 100
      let r := moves.foldl WatchRun.move opened
      (startWatch (.service "orders:1.0" none none) 0 100 false).run p =
          ((opened.move .look).state, (opened.move .look).plane) ∧
        ∀ w, r.state = .waiting w →
          (r.move .look).state =
            if (KeyFilter.startingWith scan).wanted first ([] ++ r.committed) = [] ∧
                (r.plane.store.hub.queued w.sub.receiver).length ≤ r.plane.store.hub.capacity then
              if p.clock + 100 ≤ r.plane.clock then
                .done (.service (.error ⟨.deadlineExceeded, "watch fail"⟩))
              else .waiting w
            else .done (.service (((query "orders:1.0" none none).exec r.plane).1.mapError
              (serviceGone "orders:1.0"))) :=
  ⟨.make 4096 1024, rfl,
    service_watch_answers_first_change (.make 4096 1024) (by simp [Store.make]) none 100 rfl
      (fun _ h => by cases h) (.inl le_rfl) _ (by
        intro c hc
        simp only [List.mem_cons, WatchMove.call.injEq, reduceCtorEq, List.not_mem_nil,
          or_false] at hc
        subst hc
        simp [Store.Call.Touches])⟩

/-- The watch's own sweep can compact its start away. On a store that keeps one batch of
history, at revision 2 with a key held by a lease due at the watch's time, a service watch from
revision 2 sweeps the lease first: the drop commits revision 3 and trims revision 2 from the
history, so the watch finds its start compacted and answers at once, the service not found
reported deleted, where no change of the service was ever made. -/
theorem own_sweep_answers_service_watch_at_once :
    let s := (Store.Call.put 0 "/w/a" "1" (.attach 1)).apply
      ((Store.Call.grant 0 10).apply (Store.make 1 1024))
    let p : Plane := { store := s, clock := 10000 }
    s.firstRetained ≤ 2 ∧
      (match ((startWatch (.service "orders:1.0" none none) 2 100 false).run p).1 with
        | .done (.service (.error e)) =>
          e.kind == .deleted && e.message == "service orders:1.0 deleted"
        | _ => false) = true := by
  decide +kernel

end ControlPlane
