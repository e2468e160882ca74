import ControlPlane.Proofs.Registry.Refusals
import ControlPlane.Proofs.Configs.Runs

/-!
# Refused requests change nothing

A client calls the registry (plug, unplug, update, delete a service, query, list its zones,
search, watch), the configurations (read, write, range, delete, list, history, watch) or the
lease grant. A call refused for its request, that is failing with a validation error, leaves
the index as it was and the store's entries, leases and revision as they were, but for the
lease sweep of a read it made (`refused_request_changes_nothing`).

The calls of the configurations check their names first, as the registry's do
(`readConfig_refuses`, `putConfig_refuses`, ...). A watch is made in looks: it opens, sweeping
the leases, and takes a first look; later looks poll its subscription. A look refuses only
where its answer checks the names again, before any read, so it changes only the watch
channels (`Waiter.step_refused`); the opening refuses before it subscribes
(`startWatch_refused`).
-/

namespace ControlPlane

open ControlPlane.Action

/-! ## Configurations -/

/-- A read of a configuration refuses only in the check of its name, before it reads. -/
theorem readConfig_refuses (p : Plane) (appId : Int) (node name : String) :
    Refuses (Untouched p) p (readConfig appId node name) := by
  unfold readConfig
  refine .check_bind (.refl p) fun _ => .get_bind (.of_failsWith ?_)
  refine .bind (.onStore fun e => Error.notRefusal_ofStore e _) fun ⟨kv, _⟩ => ?_
  cases kv with
  | none => exact .throw rfl
  | some kv =>
    exact .bind (.onIndexWrite fun _ _ h => Index.recordObserved_notRefusal h) fun _ => .pure _

theorem getConfig_refuses (p : Plane) (appId : Int) (node name : String) :
    Refuses (Untouched p) p (getConfig appId node name) :=
  .recorded (fun _ m h => h.count m) (readConfig_refuses p appId node name)

/-- A write of a configuration refuses only in the check of its name; a stale version is a
conflict, not a refusal. -/
theorem putConfig_refuses (p : Plane) (tag name : String) (appId : Int) (remark value : String)
    (version : Int) : Refuses (Untouched p) p (putConfig tag name appId remark value version) := by
  unfold putConfig
  refine .recorded (fun _ m h => h.count m) (.check_bind (.refl p) fun _ =>
    .get_bind (.of_failsWith ?_))
  dsimp only
  -- the write, forced or conditional, then the ledger's record of it
  refine .ite (fun _ => .bind (.onStore fun e => Error.notRefusal_ofStore e _) fun _ => ?_) fun _ =>
    .bind (.onStore fun e => Error.notRefusal_ofStore e _) fun _ =>
      .ite (fun _ => .bind (.throw rfl) fun _ => .bind (.pure _) fun _ => ?_) fun _ =>
        .bind (.pure _) fun _ => ?_
  all_goals exact .bind (.onIndexWrite fun _ _ h => Index.recordPut_notRefusal h) fun _ => .pure _

theorem rangeConfigs_refuses (p : Plane) (lower upper : String)
    (sort : Option (SortTarget × SortOrder)) :
    Refuses (Untouched p) p (rangeConfigs lower upper sort) := by
  unfold rangeConfigs
  refine .recorded (fun _ m h => h.count m) (.check_bind (.refl p) fun _ =>
    .check_bind (.refl p) fun _ => .get_bind (.of_failsWith ?_))
  exact .bind (.onStore fun e => Error.notRefusal_ofStore e _) fun _ => .pure _

theorem deleteConfig_refuses (p : Plane) (name : String) :
    Refuses (Untouched p) p (deleteConfig name) := by
  unfold deleteConfig
  refine .recorded (fun _ m h => h.count m) (.check_bind (.refl p) fun _ => .of_failsWith ?_)
  refine .bind (.onIndexWrite fun _ _ h => Index.markDeleted_notRefusal h) fun _ => ?_
  exact .get_bind fun _ => .bind (.onStore fun e => Error.notRefusal_ofStore e _) fun _ => .pure _

theorem listConfigs_refuses (p : Plane) (tag namePrefix : String) (skip limit : Int) :
    Refuses (Untouched p) p (listConfigs tag namePrefix skip limit) := by
  unfold listConfigs
  exact .ite (fun _ => .throw_bind (.refl p)) fun _ => .onIndexRead (.refl p)

theorem configHistory_refuses (p : Plane) (name : String) :
    Refuses (Untouched p) p (configHistory name) := by
  unfold configHistory
  exact .check_bind (.refl p) fun _ => .onIndexRead (.refl p)

/-! ## Watches -/

/-- The control-plane error a finished watch answered, if it answered one; a raw watch answers
store errors, which are not the control plane's. -/
def WatchOutcome.error? : WatchOutcome → Option Error
  | .service (.error e) => some e
  | .config (.error e) => some e
  | _ => none

/-- The control-plane error a look at a watch finished it with, if it did. -/
def WatchState.error? : WatchState → Option Error
  | .done o => o.error?
  | .waiting _ => none

/-- What a look at a watch left, when it finished the watch with a refusal, is in `R`. -/
def RefusedIn (R : Plane → Prop) (o : WatchState × Plane) : Prop :=
  ∀ e, o.1.error? = some e → e.kind.isValidation = true → R o.2

theorem Action.Refuses.watchAnswer {β : Type} {R : Plane → Prop} {p : Plane} {act : Action β}
    (h : Refuses R p act) {wrap : Except Error β → WatchOutcome}
    (hwrap : ∀ r e, (wrap r).error? = some e → r = .error e) :
    RefusedIn R ((WatchState.done <$> (wrap <$> act.run : StateM Plane WatchOutcome)).run p) := by
  intro e he hv
  exact h e _ (Prod.ext (hwrap _ _ he) rfl) hv

/-- A handler that reports one kind of error as another error, no refusal, and throws the
others again throws every refusal it catches again, where it caught it. -/
theorem rethrow_unless {α : Type} {k : ErrorKind} {e₀ : Error} (h₀ : e₀.kind.isValidation = false)
    (e : Error) (q : Plane) (e' : Error) (q' : Plane)
    (run : (if e.kind == k then (throw e₀ : Action α) else throw e).exec q = (.error e', q'))
    (refusal : e'.kind.isValidation = true) : e' = e ∧ q' = q := by
  split at run
  · rw [exec_throw] at run
    cases run
    rw [h₀] at refusal
    cases refusal
  · rw [exec_throw] at run
    cases run
    exact ⟨rfl, rfl⟩

/-- A service watch answers with a snapshot; it throws the snapshot's refusals again and reports
a missing service as deleted. -/
theorem serviceAnswer_refuses (p : Plane) (service : String) (zone : Option String)
    (client : Option IpAddr) (r : Except StoreError (List WatchEvent)) :
    Refuses (Untouched p) p (serviceAnswer service zone client r) := by
  have answer : Refuses (Untouched p) p (tryCatch (snapshot service zone client) fun e =>
      if e.kind == .notFound then throw ⟨.deleted, "service " ++ service ++ " deleted"⟩
      else throw e) :=
    .tryCatch (snapshot_refuses p zone) (rethrow_unless rfl)
  -- the do block joins its first step to the answer: no bind is left after the match
  unfold serviceAnswer
  cases r with
  | ok _ => exact answer
  | error e =>
    dsimp only
    exact .ite (fun _ => answer) fun _ => .throw_bind (.refl p)

theorem configAnswer_refuses (p : Plane) (appId : Int) (node name : String)
    (r : Except StoreError (List WatchEvent)) :
    Refuses (Untouched p) p (configAnswer appId node name r) := by
  unfold configAnswer
  cases r with
  | error e =>
    dsimp only
    exact .ite (fun _ => readConfig_refuses p appId node name) fun _ => .throw (.refl p)
  | ok events =>
    cases events with
    | nil => exact .throw (.refl p)
    | cons ev rest =>
      dsimp only
      exact .ite (fun _ => .of_failsWith (.bind (.onIndexWrite fun _ _ h =>
        Index.recordObserved_notRefusal h) fun _ => .pure _)) fun _ => .throw (.refl p)

/-- A watch's answer refuses untouched. -/
theorem WatchKind.answer_refused (kind : WatchKind) (r : Except StoreError (List WatchEvent))
    (p : Plane) : RefusedIn (Untouched p) ((WatchState.done <$> kind.answer r).run p) := by
  cases kind with
  | service service zone client =>
    exact Refuses.watchAnswer (.recorded (fun _ m h => h.count m)
      (serviceAnswer_refuses p service zone client r)) fun r e he => by
        cases r with
        | ok _ => cases he
        | error _ => cases he; rfl
  | config appId node name =>
    exact Refuses.watchAnswer (.recorded (fun _ m h => h.count m)
      (configAnswer_refuses p appId node name r)) fun r e he => by
        cases r with
        | ok _ => cases he
        | error _ => cases he; rfl
  | raw _ => exact fun _ he => nomatch he

theorem WatchKind.refuse_untouched (kind : WatchKind) (e : Error) (p : Plane) :
    Untouched p ((kind.refuse e).run p).2 := by
  cases kind with
  | service => exact ⟨_, rfl⟩
  | config => exact ⟨_, rfl⟩
  | raw => exact .refl p

theorem WatchKind.giveUp_untouched (kind : WatchKind) (p : Plane) :
    Untouched p (kind.giveUp.run p).2 := by
  cases kind with
  | service => exact WatchKind.refuse_untouched _ _ p
  | config => exact WatchKind.refuse_untouched _ _ p
  | raw => exact .refl p

/-- A look at a watch refuses only in its answer, before any read: it changes the watch
channels and nothing else. -/
theorem Waiter.step_refused (w : Waiter) (p : Plane) : RefusedIn (Kept p) (w.step.run p) := by
  unfold Waiter.step
  rw [Plane.run_get_bind]
  have polled := Store.contents_poll (s := p.store) w.sub
  rcases hpoll : p.store.poll w.sub with ⟨poll, sub, store⟩
  rw [hpoll] at polled
  dsimp only
  rw [Plane.run_set_bind]
  -- closing the subscription after the poll changes only the watch channels too
  have closed : Kept p { p with store := store.unwatch sub } :=
    ⟨rfl, (Store.contents_unwatch sub).trans polled⟩
  have answered (r : Except StoreError (List WatchEvent)) : RefusedIn (Kept p)
      ((do closeWatch sub; WatchState.done <$> w.kind.answer r : StateM Plane WatchState).run
        { p with store }) :=
    fun e he hv => closed.trans (w.kind.answer_refused r { p with store := store.unwatch sub } e he hv).kept
  cases poll with
  | ready r => exact answered r
  | waiting =>
    dsimp only
    split
    · exact fun _ _ _ => closed.trans (w.kind.giveUp_untouched _).kept
    · split
      · exact answered _
      · exact fun _ he => nomatch he

/-- Opening a watch refuses before it subscribes; once subscribed, a refusal of its first
look leaves the plane as the opening's sweep left it. -/
theorem startWatch_refused (kind : WatchKind) (start : Revision) (timeoutMs : Nat)
    (cancelled : Bool) (p : Plane) :
    RefusedIn (Refused p) ((startWatch kind start timeoutMs cancelled).run p) := by
  unfold startWatch
  rw [Plane.run_get_bind]
  cases kind.filter p.keyspace with
  | error e => exact fun _ _ _ => .of_untouched (kind.refuse_untouched e p)
  | ok filter =>
    dsimp only
    rw [Plane.run_set_bind]
    have opened : Kept p.swept { p with store := (p.store.watch p.clock filter start).2 } :=
      ⟨rfl, Store.contents_watch p.clock filter start⟩
    exact fun e he hv => .inr (opened.trans (Waiter.step_refused _ _ e he hv))

/-! ## Every request -/

/-- A call of the registry, of the configurations or of the lease grant, as a client makes it.
A watch is made in looks: it opens and takes a first look, and is looked at again while it
waits. -/
inductive Request where
  | plug (desc : Descriptor) (endpoint : Endpoint) (ttl : Int) (lease : LeaseId)
  | plugAll (descs : List Descriptor) (endpoint : Endpoint) (ttl : Int) (lease : LeaseId)
  | unplug (service zone address : String)
  | update (service zone address : String) (endpoint : Endpoint)
  | deleteService (service : String) (zone : Option String)
  | query (service : String) (zone : Option String) (client : Option IpAddr)
  | queryZones (service : String)
  | search (text : String) (skip limit : Int)
  | grant (ttl : Int)
  | configGet (appId : Int) (node name : String)
  | configPut (tag name : String) (appId : Int) (remark value : String) (version : Int)
  | configRange (lower upper : String) (sort : Option (SortTarget × SortOrder))
  | configDelete (name : String)
  | configList (tag namePrefix : String) (skip limit : Int)
  | configHistory (name : String)
  /-- Opens a watch and takes a first look at it. -/
  | watch (kind : WatchKind) (start : Revision) (timeoutMs : Nat) (cancelled : Bool)
  /-- Looks again at a watch left waiting. -/
  | look (w : Waiter)

/-- The error an action failed with, if it failed, and the plane it left. -/
def Action.failure {α : Type} (act : Action α) (p : Plane) : Option Error × Plane :=
  match act.exec p with
  | (.error e, q) => (some e, q)
  | (.ok _, q) => (none, q)

/-- The error a request failed with, if it failed, and the plane it left. -/
def Request.run : Request → Plane → Option Error × Plane
  | .plug desc endpoint ttl lease, p => (ControlPlane.plug desc endpoint ttl lease).failure p
  | .plugAll descs endpoint ttl lease, p =>
    (ControlPlane.plugAll descs endpoint ttl lease).failure p
  | .unplug service zone address, p => (ControlPlane.unplug service zone address).failure p
  | .update service zone address endpoint, p =>
    (ControlPlane.update service zone address endpoint).failure p
  | .deleteService service zone, p => (ControlPlane.deleteService service zone).failure p
  | .query service zone client, p => (ControlPlane.query service zone client).failure p
  | .queryZones service, p => (ControlPlane.queryZones service).failure p
  | .search text skip limit, p => (searchServices text skip limit).failure p
  | .grant ttl, p => (grantLease ttl).failure p
  | .configGet appId node name, p => (getConfig appId node name).failure p
  | .configPut tag name appId remark value version, p =>
    (putConfig tag name appId remark value version).failure p
  | .configRange lower upper sort, p => (rangeConfigs lower upper sort).failure p
  | .configDelete name, p => (deleteConfig name).failure p
  | .configList tag namePrefix skip limit, p => (listConfigs tag namePrefix skip limit).failure p
  | .configHistory name, p => (ControlPlane.configHistory name).failure p
  | .watch kind start timeoutMs cancelled, p =>
    let o := (startWatch kind start timeoutMs cancelled).run p
    (o.1.error?, o.2)
  | .look w, p =>
    let o := w.step.run p
    (o.1.error?, o.2)

/-- A refused action's failure leaves what its refusals leave. -/
theorem Action.Refuses.failure {α : Type} {R : Plane → Prop} {p : Plane} {act : Action α}
    (h : Refuses R p act) {e : Error} (refused : (act.failure p).1 = some e)
    (hv : e.kind.isValidation = true) : R (act.failure p).2 := by
  unfold Action.failure at refused ⊢
  rcases hrun : act.exec p with ⟨_ | a, q⟩
  · rw [hrun] at refused
    cases refused
    exact h _ _ hrun hv
  · rw [hrun] at refused
    cases refused

/-- What a refusal left, spelled out: the index, and the store's entries, leases and revision
as they were or as the sweep left them. -/
theorem Refused.index_contents {p q : Plane} (h : Refused p q) :
    q.index = p.index ∧
      (q.store.contents = p.store.contents ∨ q.store.contents = (p.store.expire p.clock).contents) := by
  rcases h with kept | kept
  · exact ⟨kept.index, .inl kept.contents⟩
  · exact ⟨kept.index, .inr kept.contents⟩

/-- A request of the registry, the configurations or the lease grant that is refused for its
arguments leaves the index, and with it the ledger, as it was, and the store's entries,
leases and revision as they were, or as the lease sweep of a read it made left them. -/
theorem refused_request_changes_nothing (req : Request) {p : Plane} (reached : p.store.Reachable)
    {e : Error} (refused : (req.run p).1 = some e) (hv : e.kind.isValidation = true) :
    (req.run p).2.index = p.index ∧
      ((req.run p).2.store.contents = p.store.contents ∨
        (req.run p).2.store.contents = (p.store.expire p.clock).contents) := by
  refine Refused.index_contents ?_
  cases req with
  | plug d endpoint ttl lease =>
    exact .of_untouched ((plug_refuses p d endpoint ttl lease).failure refused hv)
  | plugAll descs endpoint ttl lease =>
    exact .of_untouched ((plugAll_refuses p descs endpoint ttl lease).failure refused hv)
  | unplug service zone address =>
    exact .of_untouched ((unplug_refuses p service zone address).failure refused hv)
  | update service zone address endpoint =>
    exact .of_untouched ((update_refuses p service zone address endpoint).failure refused hv)
  | deleteService service zone =>
    exact (deleteService_refuses reached.consistent service zone).failure refused hv
  | query service zone client => exact .of_untouched ((query_refuses p zone).failure refused hv)
  | queryZones service => exact .of_untouched ((queryZones_refuses p).failure refused hv)
  | search text skip limit =>
    exact .of_untouched ((searchServices_refuses p text skip limit).failure refused hv)
  | grant ttl => exact .of_untouched ((grantLease_refuses p ttl).failure refused hv)
  | configGet appId node name =>
    exact .of_untouched ((getConfig_refuses p appId node name).failure refused hv)
  | configPut tag name appId remark value version =>
    exact .of_untouched
      ((putConfig_refuses p tag name appId remark value version).failure refused hv)
  | configRange lower upper sort =>
    exact .of_untouched ((rangeConfigs_refuses p lower upper sort).failure refused hv)
  | configDelete name => exact .of_untouched ((deleteConfig_refuses p name).failure refused hv)
  | configList tag namePrefix skip limit =>
    exact .of_untouched ((listConfigs_refuses p tag namePrefix skip limit).failure refused hv)
  | configHistory name => exact .of_untouched ((configHistory_refuses p name).failure refused hv)
  | watch kind start timeoutMs cancelled =>
    exact startWatch_refused kind start timeoutMs cancelled p e refused hv
  | look w => exact .inl (w.step_refused p e refused hv)

/-- Deleting a service while an endpoint is still plugged under it is refused after the read,
and leaves the index and the store's contents as the read found them. -/
theorem plugged_service_deletion_refused :
    let plugged := Store.Call.put 0 (KeySpace.standard.nodeKey "orders:1.0" "default" "10.0.0.5:9000")
      "{}" .detach
    let p : Plane := { store := plugged.apply (Store.make 0 0) }
    let q := (Request.deleteService "orders:1.0" none).run p
    ∃ e, q.1 = some e ∧ e.kind.isValidation = true ∧ q.2.index = p.index ∧
      (q.2.store.contents = p.store.contents ∨
        q.2.store.contents = (p.store.expire p.clock).contents) := by
  intro plugged p q
  have reached : p.store.Reachable := Store.Reachable.call plugged (.make 0 0)
  have refused : (q.1.map (·.kind.isValidation)) = some true := by decide +kernel
  obtain ⟨e, hrun, hv⟩ := Option.map_eq_some_iff.mp refused
  refine ⟨e, hrun, hv, ?_⟩
  -- spell the run out, so that the conclusion matches without evaluating it
  simp only [q] at hrun ⊢
  exact refused_request_changes_nothing _ reached hrun hv

end ControlPlane
