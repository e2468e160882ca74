import ControlPlane.Proofs.Store.Invariant
import ControlPlane.Proofs.Store.Receive

/-!
# The journal of committed batches

The history forgets: it keeps only the newest batches, and a compaction drops older ones. To
say what a watch must deliver, a run of calls is followed here together with the list of every
batch its calls committed, oldest first: the journal. The store's own records stand to it in a
fixed way (`Store.Journal`):

* the batches of the journal, and those committed but not yet sent, are numbered one after
  another up to the store's revision, and every event of a batch carries the batch's revision;
* the history is the newest part of them, and every older batch is older than the first
  retained revision.

1. `Store.Journal`: that relation; one lemma for each way the store changes.
2. `Call.prepared`, `Call.sent`: what a call has done just before it sends, and the batches it
   sends; `Call.prepared_cases` lists what that can be, with the writes `Call.writesAt` names.
   Every description of a call's effect in later modules is read off this one list.
3. `Store.Logged`: the states an empty store reaches, with their journal.
-/

namespace ControlPlane

theorem Consecutive.revision_le {bs : List Batch} {top : Revision} (h : Consecutive bs top)
    {i j : Nat} (hij : i ≤ j) (hj : j < bs.length) :
    (bs.get ⟨i, by omega⟩).revision ≤ (bs.get ⟨j, hj⟩).revision := by
  have hi := h i (by omega)
  have hj' := h j hj
  simp only [List.get_eq_getElem] at hi hj' ⊢
  rw [hi, hj']
  grind

theorem Consecutive.revision_le_top {bs : List Batch} {top : Revision} (h : Consecutive bs top) :
    ∀ b ∈ bs, b.revision ≤ top := by
  intro b hb
  obtain ⟨i, hi, rfl⟩ := List.getElem_of_mem hb
  rw [h i hi]
  grind

namespace Store

variable {s t : Store} {log : List Batch} {rev : Revision} {evs : List WatchEvent}
  {id : LeaseId} {now : Nat}

/-- How the store's records stand to `log`, the batches committed and sent so far. -/
structure Journal (log : List Batch) (s : Store) : Prop where
  consecutive : Consecutive (log ++ s.pending) s.revision
  stamped : ∀ b ∈ log ++ s.pending, ∀ ev ∈ b.events, ev.kv.modRevision = b.revision
  retained : ∃ older, log ++ s.pending = older ++ s.history ∧
    ∀ b ∈ older, b.revision < s.firstRetained

/-- The relation reads the pending batches, the revision, the history and the first retained
revision, and nothing else. -/
theorem Journal.congr (h : Journal log s) (hp : t.pending = s.pending) (hr : t.revision = s.revision)
    (hh : t.history = s.history) (hf : t.firstRetained = s.firstRetained) : Journal log t := by
  obtain ⟨consecutive, stamped, retained⟩ := h
  exact ⟨by rw [hp, hr]; exact consecutive, by rw [hp]; exact stamped,
    by rw [hp, hh, hf]; exact retained⟩

theorem Journal.publish (h : Journal log s) : Journal (log ++ s.pending) s.publish := by
  have same : log ++ s.pending ++ s.publish.pending = log ++ s.pending := by
    simp [Store.publish]
  obtain ⟨consecutive, stamped, retained⟩ := h
  exact ⟨by rw [same]; exact consecutive, by rw [same]; exact stamped, by rw [same]; exact retained⟩

theorem commit_pending : (s.commit rev evs).pending =
    if evs.isEmpty then s.pending else s.pending ++ [⟨rev, evs⟩] := by
  unfold commit
  split <;> rfl

/-- A commit at the next revision adds its batch to the pending ones; the batches the history
drops are older than the new first retained revision. -/
theorem Journal.commit (h : Journal log s)
    (hevs : ∀ ev ∈ evs, ev.kv.modRevision = s.revision + 1) :
    Journal log (s.commit (s.revision + 1) evs) := by
  unfold Store.commit
  split
  · exact h
  · dsimp only
    set b : Batch := ⟨s.revision + 1, evs⟩ with hb
    set H := s.history ++ [b] with hH
    set excess := H.length - s.historyLimit with hexcess
    obtain ⟨older, hL, hold⟩ := h.retained
    have hjoin : log ++ (s.pending ++ [b]) = (log ++ s.pending) ++ [b] := by
      rw [List.append_assoc]
    have full : Consecutive (older ++ H) (s.revision + 1) := by
      rw [hH, ← List.append_assoc, ← hL]
      exact h.consecutive.append rfl
    constructor
    · rw [hjoin]
      exact h.consecutive.append rfl
    · intro b' hb' ev hev
      rw [hjoin] at hb'
      rcases List.mem_append.1 hb' with hb' | hb'
      · exact h.stamped b' hb' ev hev
      · rw [List.mem_singleton.1 hb'] at hev ⊢
        exact hevs ev hev
    · -- the journal splits where the history now starts
      refine ⟨(older ++ H).take (older.length + excess), ?_, ?_⟩
      · rw [hjoin, hL, List.append_assoc, ← hH]
        have hdrop : (older ++ H).drop (older.length + excess) = H.drop excess :=
          List.drop_length_add_append excess
        rw [← hdrop, List.take_append_drop]
      · intro x hx
        rcases Nat.eq_zero_or_pos excess with hzero | hpos
        · -- nothing dropped: the first retained revision stays
          rw [hzero, Nat.add_zero, List.take_left] at hx
          rw [hzero, List.take_zero]
          exact hold x hx
        · have hidx : excess - 1 < H.length := by
            have : excess ≤ H.length := Nat.sub_le _ _
            omega
          have hlast : (H.take excess).getLast? = some H[excess - 1] := by
            rw [List.getLast?_take, if_neg (by omega), List.getElem?_eq_getElem hidx]
            rfl
          rw [hlast]
          dsimp only
          -- every batch up to the last one dropped is no newer than it
          obtain ⟨k, hk, rfl⟩ := List.mem_take_iff_getElem.1 hx
          have hlen : (older ++ H).length = older.length + H.length := List.length_append
          have hkl : k < (older ++ H).length := by omega
          have hlast' : older.length + excess - 1 < (older ++ H).length := by omega
          have step := full.revision_le (show k ≤ older.length + excess - 1 by omega) hlast'
          have same : (older ++ H)[older.length + excess - 1] = H[excess - 1] := by
            rw [List.getElem_append_right (by omega)]
            congr 1
            omega
          simp only [List.get_eq_getElem, same] at step
          grind

/-- Compaction moves the batches before a revision out of the history; they are older than the
new first retained revision. -/
theorem Journal.compact (h : Journal log s) (rev : Revision) : Journal log (s.compact rev) := by
  obtain ⟨consecutive, stamped, older, hL, hold⟩ := h
  refine ⟨consecutive, stamped, older ++ s.history.takeWhile (·.revision < rev), ?_, ?_⟩
  · simp only [Store.compact]
    rw [hL, List.append_assoc, List.takeWhile_append_dropWhile]
  · intro b hb
    simp only [Store.compact]
    rcases List.mem_append.1 hb with hb | hb
    · exact lt_of_lt_of_le (hold b hb) (le_max_left _ _)
    · have : decide (b.revision < rev) = true := List.all_eq_true.1 List.all_takeWhile b hb
      exact lt_of_lt_of_le (by simpa using this) (le_max_right _ _)

/-! ## Lease drops, writes and the sweep -/

theorem Journal.dropHeld (h : Journal log s) : Journal log (s.dropHeld id) := by
  have before : Journal log (s.withoutLease id) := h.congr rfl rfl rfl rfl
  apply before.commit
  intro ev hev
  simp only [leaseTombstones, List.mem_map] at hev
  obtain ⟨e, -, rfl⟩ := hev
  rfl

theorem Journal.dropLease (hc : s.Consistent) (h : Journal log s) : Journal log (s.dropLease id) := by
  by_cases hid : id = 0
  · rw [hid, dropLease_of_none hc.lease?_zero]
    exact h
  · rw [dropLease_eq hc.toLinked hid]
    exact h.dropHeld

theorem Journal.foldl_dropLease :
    ∀ (ids : List LeaseId) {s : Store}, s.Consistent → Journal log s →
      Journal log (ids.foldl Store.dropLease s)
  | [], _, _, h => h
  | _ :: ids, _, hc, h => Journal.foldl_dropLease ids hc.dropLease (h.dropLease hc)

theorem Journal.expire (hc : s.Consistent) (h : Journal log s) : Journal log (s.expire now) :=
  Journal.foldl_dropLease _ hc h

theorem Journal.applyWrites {ops : List WriteOp} {s' : Store} (hc : s.Consistent) (h : Journal log s)
    (hok : s.applyWrites ops = .ok s') : Journal log s' := by
  have bounded : ∀ k e, s.find? k = some e →
      1 ≤ e.version ∧ e.createRevision ≤ e.modRevision ∧ e.modRevision ≤ s.revision :=
    fun k e he => hc.entry_bounds e (find?_key he).2
  obtain ⟨⟨t, evs⟩, hw, rfl⟩ := applyWrites_ok hc.toLinked bounded hok
  obtain ⟨es, ls, rfl⟩ := hw.frame
  have before : Journal log ({ s with entries := es, leases := ls } : Store) := h.congr rfl rfl rfl rfl
  exact before.commit hw.stamped

/-- The hub is not part of the tables: the sweep leaves it alone. -/
theorem Consistent.expire_hub (hc : s.Consistent) : (s.expire now).hub = s.hub := by
  have drop : ∀ (ids : List LeaseId) (s : Store), s.Consistent →
      (ids.foldl Store.dropLease s).hub = s.hub := by
    intro ids
    induction ids with
    | nil => intro s _; rfl
    | cons id ids ih =>
      intro s hc
      rw [List.foldl_cons, ih _ hc.dropLease]
      by_cases hid : id = 0
      · rw [hid, dropLease_of_none hc.lease?_zero]
      · rw [dropLease_eq hc.toLinked hid, Store.dropHeld]
        unfold Store.commit
        split <;> rfl
  exact drop _ s hc

theorem Consistent.applyWrites_hub {ops : List WriteOp} {s' : Store} (hc : s.Consistent)
    (hok : s.applyWrites ops = .ok s') : s'.hub = s.hub := by
  have bounded : ∀ k e, s.find? k = some e →
      1 ≤ e.version ∧ e.createRevision ≤ e.modRevision ∧ e.modRevision ≤ s.revision :=
    fun k e he => hc.entry_bounds e (find?_key he).2
  obtain ⟨⟨t, evs⟩, hw, rfl⟩ := applyWrites_ok hc.toLinked bounded hok
  obtain ⟨es, ls, rfl⟩ := hw.frame
  unfold Store.commit
  split <;> rfl

theorem Consistent.dropLease_hub (hc : s.Consistent) : (s.dropLease id).hub = s.hub := by
  by_cases hid : id = 0
  · rw [hid, dropLease_of_none hc.lease?_zero]
  · rw [dropLease_eq hc.toLinked hid, Store.dropHeld]
    unfold Store.commit
    split <;> rfl

/-! ## What a call does before it sends -/

/-- The store a call leaves just before it sends what it committed: after the sweep and the
work; a call that fails keeps the sweep. -/
def beforeSend {α : Type} (s : Store) (now : Nat) (work : Store → Except StoreError (α × Store)) :
    Store :=
  match work (s.expire now) with
  | .ok (_, s') => s'
  | .error _ => s.expire now

theorem call_snd {α : Type} (work : Store → Except StoreError (α × Store)) :
    (s.call now work).2 = (s.beforeSend now work).publish := by
  cases hw : work (s.expire now) with
  | ok r => simp only [Store.call, beforeSend, hw]
  | error e => simp only [Store.call, beforeSend, hw]

theorem beforeSend_cases {α : Type} {work : Store → Except StoreError (α × Store)} {p : Store}
    (hp : s.beforeSend now work = p) : p = s.expire now ∨ ∃ a, work (s.expire now) = .ok (a, p) := by
  subst hp
  cases hw : work (s.expire now) with
  | ok r => exact .inr ⟨r.1, by simp only [beforeSend, hw]⟩
  | error e => exact .inl (by simp only [beforeSend, hw])

/-- A call that answers did its work on the swept store, and the work gave the answer and the
state the call sends. -/
theorem call_ok {α : Type} {work : Store → Except StoreError (α × Store)} {a : α}
    (h : (s.call now work).1 = .ok a) : work (s.expire now) = .ok (a, s.beforeSend now work) := by
  unfold beforeSend
  cases hw : work (s.expire now) with
  | ok r =>
    simp only [call, hw] at h
    cases h
    rfl
  | error e =>
    simp only [call, hw] at h
    cases h

/-- What a call has done just before it sends: the store's calls, with the same work. -/
def Call.prepared : Call → Store → Store
  | .get now key, s => s.beforeSend now fun s => pure ((s.find? key, s.revision), s)
  | .read now r, s => s.beforeSend now fun s => pure (s.range r, s)
  | .put now key value binding, s => s.beforeSend now fun s => do
    let s ← s.applyWrites [.put key value binding]
    pure (s.revision, s)
  | .delete now key, s => s.beforeSend now fun s => do
    let existed := (s.find? key).isSome
    let s ← s.applyWrites [.delete key]
    pure ((if existed then 1 else 0, s.revision), s)
  | .txn now w, s => s.beforeSend now fun s => do
    let ok := w.conditions.all s.holds
    let s ← s.applyWrites (if ok then w.onSuccess else w.onFailure)
    pure ((ok, s.revision), s)
  | .grant now ttl, s => s.beforeSend now fun s => do
    let deadline ← leaseDeadline now ttl
    let id := s.nextLease
    pure ((⟨id, ttl⟩ : LeaseGrant),
      { s with nextLease := id + 1, leases := s.leases ++ [{ id, ttl, deadline }] })
  | .revoke now id, s => s.beforeSend now fun s =>
    if s.hasLease id then pure ((), s.dropLease id) else throw (StoreError.leaseNotFound id)
  | .keepAlive now id, s => s.beforeSend now fun s =>
    match s.leases.find? (·.id == id) with
    | none => throw (StoreError.leaseNotFound id)
    | some l => do
      let deadline ← leaseDeadline now l.ttl
      pure (l.ttl, s.mapLease id fun l => { l with deadline })
  | .reap now, s => s.beforeSend now fun s => pure ((), s)
  | .watch now _ _, s => { s.expire now with hub := (s.expire now).hub.subscribe.1 }
  | .poll sub, s => (s.poll sub).2.2
  | .unwatch sub, s => s.unwatch sub
  | .compact rev, s => s.compact rev

/-- The batches a call commits and sends. -/
def Call.sent (c : Call) (s : Store) : List Batch := (c.prepared s).pending

/-- A call leaves what it prepared, sent; a call that does not sweep leaves it as it is, with
the batches that were pending. -/
theorem Call.apply_eq (c : Call) (s : Store) :
    c.apply s = (c.prepared s).publish ∨
      (c.apply s = c.prepared s ∧ (c.prepared s).pending = s.pending) := by
  cases c with
  | poll sub => exact .inr ⟨rfl, rfl⟩
  | unwatch sub => exact .inr ⟨rfl, rfl⟩
  | compact rev => exact .inr ⟨rfl, rfl⟩
  | watch now filter start => exact .inl rfl
  | get now key => exact .inl (call_snd _)
  | read now r => exact .inl (call_snd _)
  | put now key value binding => exact .inl (call_snd _)
  | delete now key => exact .inl (call_snd _)
  | txn now w => exact .inl (call_snd _)
  | grant now ttl => exact .inl (call_snd _)
  | revoke now id => exact .inl (call_snd _)
  | keepAlive now id => exact .inl (call_snd _)
  | reap now => exact .inl (call_snd _)

/-- With nothing pending, every call is what it prepared, then sent: sending nothing changes
nothing. -/
theorem Call.apply_eq_publish (c : Call) (hp : s.pending = []) :
    c.apply s = (c.prepared s).publish := by
  have idle : ∀ t : Store, t.pending = [] → t = t.publish := by
    intro t ht
    rcases t with ⟨⟩
    simp_all [Store.publish]
  rcases c.apply_eq s with sent | ⟨same, pending⟩
  · exact sent
  · rw [same]
    exact idle _ (pending.trans hp)

theorem Call.entries_apply (c : Call) (s : Store) : (c.apply s).entries = (c.prepared s).entries := by
  rcases c.apply_eq s with h | ⟨h, -⟩
  · rw [h]; rfl
  · rw [h]

theorem Call.revision_apply (c : Call) (s : Store) :
    (c.apply s).revision = (c.prepared s).revision := by
  rcases c.apply_eq s with h | ⟨h, -⟩
  · rw [h]; rfl
  · rw [h]

/-- The writes a call applies when its writes succeed on `t`, the store after its sweep: a
transaction's branch is picked by its conditions on `t`. -/
def Call.writesAt : Call → Store → List WriteOp
  | .put _ key value binding, _ => [.put key value binding]
  | .delete _ key, _ => [.delete key]
  | .txn _ w, t => if w.conditions.all t.holds then w.onSuccess else w.onFailure
  | _, _ => []

/-- What a call can do before it sends: the sweep, then nothing, its writes, a new lease, a lease
drop, a renewal or a new receiver; or, without a sweep, a compaction, a receive or a close. -/
theorem Call.prepared_cases (c : Call) (s : Store) :
    (∃ now, c.prepared s = s.expire now) ∨
    (∃ now, (s.expire now).applyWrites (c.writesAt (s.expire now)) = .ok (c.prepared s)) ∨
    (∃ now ttl deadline, c.prepared s =
      { s.expire now with nextLease := (s.expire now).nextLease + 1,
                          leases := (s.expire now).leases ++
                            [{ id := (s.expire now).nextLease, ttl, deadline }] }) ∨
    (∃ now id, c.prepared s = (s.expire now).dropLease id) ∨
    (∃ now id deadline, c.prepared s = (s.expire now).mapLease id fun l => { l with deadline }) ∨
    (∃ now, c.prepared s = { s.expire now with hub := (s.expire now).hub.subscribe.1 }) ∨
    (∃ rev, c.prepared s = s.compact rev) ∨
    (∃ sub, c = .poll sub ∧ c.prepared s = { s with hub := (sub.poll s.hub).2.2 }) ∨
    (∃ sub, c = .unwatch sub ∧ c.prepared s = { s with hub := s.hub.close sub.receiver }) := by
  cases c with
  | get now key =>
    generalize hp : Call.prepared (.get now key) s = p
    simp only [Call.prepared] at hp
    rcases beforeSend_cases hp with rfl | ⟨a, h⟩
    · exact .inl ⟨now, rfl⟩
    · cases h
      exact .inl ⟨now, rfl⟩
  | read now r =>
    generalize hp : Call.prepared (.read now r) s = p
    simp only [Call.prepared] at hp
    rcases beforeSend_cases hp with rfl | ⟨a, h⟩
    · exact .inl ⟨now, rfl⟩
    · cases h
      exact .inl ⟨now, rfl⟩
  | put now key value binding =>
    generalize hp : Call.prepared (.put now key value binding) s = p
    simp only [Call.prepared] at hp
    rcases beforeSend_cases hp with rfl | ⟨a, h⟩
    · exact .inl ⟨now, rfl⟩
    · obtain ⟨t, hw, hpure⟩ := Except.bind_eq_ok h
      cases hpure
      exact .inr (.inl ⟨now, hw⟩)
  | delete now key =>
    generalize hp : Call.prepared (.delete now key) s = p
    simp only [Call.prepared] at hp
    rcases beforeSend_cases hp with rfl | ⟨a, h⟩
    · exact .inl ⟨now, rfl⟩
    · obtain ⟨t, hw, hpure⟩ := Except.bind_eq_ok h
      cases hpure
      exact .inr (.inl ⟨now, hw⟩)
  | txn now w =>
    generalize hp : Call.prepared (.txn now w) s = p
    simp only [Call.prepared] at hp
    rcases beforeSend_cases hp with rfl | ⟨a, h⟩
    · exact .inl ⟨now, rfl⟩
    · obtain ⟨t, hw, hpure⟩ := Except.bind_eq_ok h
      cases hpure
      exact .inr (.inl ⟨now, hw⟩)
  | grant now ttl =>
    generalize hp : Call.prepared (.grant now ttl) s = p
    simp only [Call.prepared] at hp
    rcases beforeSend_cases hp with rfl | ⟨a, h⟩
    · exact .inl ⟨now, rfl⟩
    · obtain ⟨deadline, -, hpure⟩ := Except.bind_eq_ok h
      cases hpure
      exact .inr (.inr (.inl ⟨now, ttl, deadline, rfl⟩))
  | revoke now id =>
    generalize hp : Call.prepared (.revoke now id) s = p
    simp only [Call.prepared] at hp
    rcases beforeSend_cases hp with rfl | ⟨a, h⟩
    · exact .inl ⟨now, rfl⟩
    · split at h
      · cases h
        exact .inr (.inr (.inr (.inl ⟨now, id, rfl⟩)))
      · cases h
  | keepAlive now id =>
    generalize hp : Call.prepared (.keepAlive now id) s = p
    simp only [Call.prepared] at hp
    rcases beforeSend_cases hp with rfl | ⟨a, h⟩
    · exact .inl ⟨now, rfl⟩
    · split at h
      · cases h
      · obtain ⟨deadline, -, hpure⟩ := Except.bind_eq_ok h
        cases hpure
        exact .inr (.inr (.inr (.inr (.inl ⟨now, id, deadline, rfl⟩))))
  | reap now =>
    generalize hp : Call.prepared (.reap now) s = p
    simp only [Call.prepared] at hp
    rcases beforeSend_cases hp with rfl | ⟨a, h⟩
    · exact .inl ⟨now, rfl⟩
    · cases h
      exact .inl ⟨now, rfl⟩
  | watch now filter start => exact .inr (.inr (.inr (.inr (.inr (.inl ⟨now, rfl⟩)))))
  | poll sub => exact .inr (.inr (.inr (.inr (.inr (.inr (.inr (.inl ⟨sub, rfl, rfl⟩)))))))
  | unwatch sub => exact .inr (.inr (.inr (.inr (.inr (.inr (.inr (.inr ⟨sub, rfl, rfl⟩)))))))
  | compact rev => exact .inr (.inr (.inr (.inr (.inr (.inr (.inl ⟨rev, rfl⟩))))))

theorem Consistent.prepared (hc : s.Consistent) (c : Call) : (c.prepared s).Consistent := by
  rcases c.prepared_cases s with ⟨now, hp⟩ | ⟨now, hw⟩ | ⟨now, ttl, deadline, hp⟩ |
    ⟨now, id, hp⟩ | ⟨now, id, deadline, hp⟩ | ⟨now, hp⟩ | ⟨rev, hp⟩ | ⟨sub, -, hp⟩ | ⟨sub, -, hp⟩
  · rw [hp]; exact hc.expire
  · exact hc.expire.applyWrites hw
  · rw [hp]; exact hc.expire.addLease ttl deadline
  · rw [hp]; exact hc.expire.dropLease
  · rw [hp]; exact hc.expire.renew deadline
  · rw [hp]; exact hc.expire.congr rfl rfl rfl rfl rfl rfl
  · rw [hp]; exact hc.compact rev
  · rw [hp]; exact hc.congr rfl rfl rfl rfl rfl rfl
  · rw [hp]; exact hc.congr rfl rfl rfl rfl rfl rfl

theorem Journal.prepared (hc : s.Consistent) (h : Journal log s) (c : Call) :
    Journal log (c.prepared s) := by
  rcases c.prepared_cases s with ⟨now, hp⟩ | ⟨now, hw⟩ | ⟨now, ttl, deadline, hp⟩ |
    ⟨now, id, hp⟩ | ⟨now, id, deadline, hp⟩ | ⟨now, hp⟩ | ⟨rev, hp⟩ | ⟨sub, -, hp⟩ | ⟨sub, -, hp⟩
  · rw [hp]; exact h.expire hc
  · exact (h.expire hc).applyWrites hc.expire hw
  · rw [hp]; exact (h.expire hc).congr rfl rfl rfl rfl
  · rw [hp]; exact (h.expire hc).dropLease hc.expire
  · rw [hp]; exact (h.expire hc).congr rfl rfl rfl rfl
  · rw [hp]; exact (h.expire hc).congr rfl rfl rfl rfl
  · rw [hp]; exact h.compact rev
  · rw [hp]; exact h.congr rfl rfl rfl rfl
  · rw [hp]; exact h.congr rfl rfl rfl rfl

/-! ## Receivers through a call -/

/-- Whether a call receives on, or closes, receiver `r`. -/
def Call.Touches (c : Call) (r : Nat) : Prop :=
  match c with
  | .poll sub => sub.receiver = r
  | .unwatch sub => sub.receiver = r
  | _ => False

/-- A call keeps the hub's numbers fresh. -/
theorem Call.prepared_fresh (hc : s.Consistent) (c : Call) (hf : s.hub.Fresh) :
    (c.prepared s).hub.Fresh := by
  rcases c.prepared_cases s with ⟨now, hp⟩ | ⟨now, hw⟩ | ⟨now, ttl, deadline, hp⟩ |
    ⟨now, id, hp⟩ | ⟨now, id, deadline, hp⟩ | ⟨now, hp⟩ | ⟨rev, hp⟩ | ⟨sub, -, hp⟩ | ⟨sub, -, hp⟩
  · rw [hp, hc.expire_hub]; exact hf
  · rw [hc.expire.applyWrites_hub hw, hc.expire_hub]; exact hf
  · rw [hp]; simp only; rw [hc.expire_hub]; exact hf
  · rw [hp, hc.expire.dropLease_hub, hc.expire_hub]; exact hf
  · rw [hp]; simp only [mapLease]; rw [hc.expire_hub]; exact hf
  · rw [hp]; simp only; rw [hc.expire_hub]; exact hf.subscribe
  · rw [hp]; exact hf
  · rw [hp]
    rcases Subscription.poll_hub sub s.hub with h | ⟨q, h⟩
    · rw [h]; exact hf
    · rw [h]; exact hf.setQueue
  · rw [hp]; exact hf.close

/-- A call that neither receives on nor closes an open receiver keeps it open, with its queue,
until it sends; the hub's next number does not go down. -/
theorem Call.prepared_hub {r : Nat} (hc : s.Consistent) (c : Call) (hown : ¬ c.Touches r)
    (hr : s.hub.IsOpen r) (hlt : r < s.hub.nextId) :
    (c.prepared s).hub.IsOpen r ∧ (c.prepared s).hub.queued r = s.hub.queued r ∧
      s.hub.nextId ≤ (c.prepared s).hub.nextId := by
  -- the calls that leave the hub as the sweep found it
  have same : ∀ t : Store, t.hub = s.hub → t.hub.IsOpen r ∧ t.hub.queued r = s.hub.queued r ∧
      s.hub.nextId ≤ t.hub.nextId := fun t ht => by rw [ht]; exact ⟨hr, rfl, le_refl _⟩
  rcases c.prepared_cases s with ⟨now, hp⟩ | ⟨now, hw⟩ | ⟨now, ttl, deadline, hp⟩ |
    ⟨now, id, hp⟩ | ⟨now, id, deadline, hp⟩ | ⟨now, hp⟩ | ⟨rev, hp⟩ | ⟨sub, hc', hp⟩ | ⟨sub, hc', hp⟩
  · exact same _ (by rw [hp, hc.expire_hub])
  · exact same _ (by rw [hc.expire.applyWrites_hub hw, hc.expire_hub])
  · exact same _ (by rw [hp]; exact hc.expire_hub)
  · exact same _ (by rw [hp, hc.expire.dropLease_hub, hc.expire_hub])
  · exact same _ (by rw [hp]; exact hc.expire_hub)
  · -- a watch opens a receiver under a new number
    rw [hp]
    simp only
    rw [hc.expire_hub, Hub.subscribe_nextId, Hub.queued_subscribe_of_ne (by omega)]
    exact ⟨Hub.isOpen_subscribe hr, rfl, by omega⟩
  · exact same _ (by rw [hp]; rfl)
  · -- a receive on another receiver refills only that one's queue
    have hne : r ≠ sub.receiver := by
      intro same'
      apply hown
      rw [hc']
      exact same'.symm
    rw [hp]
    rcases Subscription.poll_hub sub s.hub with h | ⟨q, h⟩
    · rw [h]; exact ⟨hr, rfl, le_refl _⟩
    · rw [h, Hub.queued_setQueue hr, if_neg hne, Hub.setQueue_nextId]
      exact ⟨Hub.isOpen_setQueue.2 hr, rfl, le_refl _⟩
  · have hne : r ≠ sub.receiver := by
      intro same'
      apply hown
      rw [hc']
      exact same'.symm
    rw [hp]
    exact ⟨(Hub.isOpen_close hne).2 hr, Hub.queued_close hne, le_refl _⟩

/-! ## Logged runs -/

/-- The states an empty store reaches by calls, with every batch the calls committed, oldest
first. -/
inductive Logged : List Batch → Store → Prop where
  | make (historyLimit channelCapacity : Nat) : Logged [] (Store.make historyLimit channelCapacity)
  | call {log : List Batch} {s : Store} (c : Call) : Logged log s →
      Logged (log ++ c.sent s) (c.apply s)

theorem journal_make (historyLimit channelCapacity : Nat) :
    Journal [] (Store.make historyLimit channelCapacity) where
  consecutive := by simp [Consecutive, Store.make]
  stamped := by simp [Store.make]
  retained := ⟨[], by simp [Store.make], by simp⟩

/-- A logged state keeps the invariant, stands to its journal as `Journal` says, has sent all it
committed, and its hub gives fresh numbers. -/
theorem Logged.invariant (h : Logged log s) :
    s.Consistent ∧ Journal log s ∧ s.pending = [] ∧ s.hub.Fresh := by
  induction h with
  | make historyLimit channelCapacity =>
    exact ⟨consistent_make _ _, journal_make _ _, rfl, Hub.fresh_make _⟩
  | call c _ ih =>
    obtain ⟨hc, hj, hp, hf⟩ := ih
    rw [Call.apply_eq_publish c hp]
    exact ⟨(hc.prepared c).publish, (hj.prepared hc c).publish, rfl,
      (c.prepared_fresh hc hf).sends _⟩

theorem Logged.reachable (h : Logged log s) : Reachable s := by
  induction h with
  | make historyLimit channelCapacity => exact .make historyLimit channelCapacity
  | call c _ ih => exact .call c ih

end Store

end ControlPlane
