import ControlPlane.Proofs.Store.LeaseLife
import ControlPlane.Proofs.Registry.Descriptors

/-!
# Racing to create a descriptor

Plugs of one zone that run at the same time each ensure the zone's descriptor. A round of such
an attempt is a create of the zone's descriptor key and, when the create finds the key taken, a
read of it, whose entry is judged against the attempt's descriptor
(`exec_ensureDescriptor_go_succ`). Each store call is one step. The steps of the attempts
interleave in any order with one another, with any other calls that neither write nor delete
the key, and with the clock moving (`Race.Step`).

From a store without the key, every interleaving keeps one picture (`Race.Settled`): either no
attempt has moved and the key is absent, or exactly one attempt created the key, which holds
that attempt's descriptor written once, and every other attempt is about to create, about to
read, or has answered with the judgement of that entry (`Race.settled_of_reaches`). So at most
one attempt creates the key, and once all have answered one has; an attempt whose descriptor
has the creator's content passes without writing, and one whose descriptor hashes otherwise
fails as changed (`Race.Settled.created_unique`, `Race.Settled.creator`, `Race.Settled.answer`).
-/

namespace ControlPlane

open ControlPlane.Action

/-! ## The steps of a round -/

/-- The create of a round of an attempt at `d`. -/
def ensureCreate (key : String) (d : Descriptor) : Action (Bool × Revision) :=
  onStore (fun s now => s.txn now (descriptorCreate key d.text)) "plug service fail"

/-- The read of a round, after a create that found the key taken. -/
def ensureRead (key : String) : Action (Option KeyValue × Revision) :=
  onStore (fun s now => s.get now key) "plug service fail"

/-- What an attempt at `d` answers of a stored entry: it must read back as a descriptor that
hashes to `d`'s content hash. -/
def Descriptor.judge (d : Descriptor) (kv : KeyValue) : Except Error Unit :=
  match Descriptor.read? kv.value with
  | none => .error ⟨.systemError, "damaged service descriptor"⟩
  | some stored =>
    if stored.computeHash == d.contentHash then .ok ()
    else .error ⟨.changedServiceDesc,
      d.service ++ "/" ++ d.zone ++ " differs from the registered descriptor"⟩

/-- A round of an attempt is its create and, when the key was taken, its read and the
judgement of what the read found; a read that finds nothing starts the next round. -/
theorem exec_ensureDescriptor_go_succ (d : Descriptor) (n : Nat) (p : Plane) :
    (ensureDescriptor.go d (n + 1)).exec p =
      match (ensureCreate (p.keyspace.descriptorKey d.service d.zone) d).exec p with
      | (.ok (true, _), p') => (.ok (), p')
      | (.ok (false, _), p') =>
        match (ensureRead (p.keyspace.descriptorKey d.service d.zone)).exec p' with
        | (.ok (none, _), p'') => (ensureDescriptor.go d n).exec p''
        | (.ok (some kv, _), p'') => (d.judge kv, p'')
        | (.error e, p'') => (.error e, p'')
      | (.error e, p') => (.error e, p') := by
  rw [ensureDescriptor.go, exec_get_bind]
  simp only
  rw [exec_bind]
  unfold ensureCreate
  rcases (onStore (fun s now => s.txn now (descriptorCreate (p.keyspace.descriptorKey d.service
    d.zone) d.text)) "plug service fail").exec p with ⟨_ | ⟨_ | _, rev⟩, p'⟩
  · rfl
  · -- the key was taken: the read, then the judgement
    simp only [Bool.false_eq_true, if_false]
    rw [exec_bind]
    unfold ensureRead
    rcases (onStore (fun s now => s.get now (p.keyspace.descriptorKey d.service d.zone))
      "plug service fail").exec p' with ⟨_ | ⟨_ | kv, rev'⟩, p''⟩
    · rfl
    · rfl
    · dsimp only
      unfold Descriptor.judge
      cases Descriptor.read? kv.value with
      | none => rfl
      | some stored =>
        dsimp only
        split <;> rfl
  · rfl

/-- Two descriptors with the same content: the fields the hash is taken of. -/
def Descriptor.SameContent (d d' : Descriptor) : Prop :=
  d.service = d'.service ∧ d.zone = d'.zone ∧ d.kind = d'.kind ∧ d.proto = d'.proto ∧
    d.description = d'.description

theorem Descriptor.computeHash_eq {d d' : Descriptor} (h : d.SameContent d') :
    d.computeHash = d'.computeHash := by
  obtain ⟨hs, hz, hk, hp, hd⟩ := h
  simp only [Descriptor.computeHash, Descriptor.hashInput, hs, hz, hk, hp, hd]

/-- The judgement of an entry holding `c`'s text compares `c`'s hash with `d`'s content
hash. -/
theorem Descriptor.judge_text (d c : Descriptor) {kv : KeyValue} (h : kv.value = c.text) :
    d.judge kv = if c.computeHash == d.contentHash then .ok () else .error ⟨.changedServiceDesc,
      d.service ++ "/" ++ d.zone ++ " differs from the registered descriptor"⟩ := by
  unfold Descriptor.judge
  rw [h, Descriptor.read?_text]

/-! ## The store calls of a round -/

section

variable {s : Store} {now : Nat} {key : String}

theorem exec_ensureCreate {p : Plane} {key : String} {d : Descriptor} {a : Bool × Revision}
    (h : (p.store.txn p.clock (descriptorCreate key d.text)).1 = .ok a) :
    (ensureCreate key d).exec p =
      (.ok a, { p with store := (p.store.txn p.clock (descriptorCreate key d.text)).2 }) := by
  unfold ensureCreate
  exact exec_onStore_ok h

theorem exec_ensureRead {p : Plane} {key : String} {a : Option KeyValue × Revision}
    (h : (p.store.get p.clock key).1 = .ok a) :
    (ensureRead key).exec p = (.ok a, { p with store := (p.store.get p.clock key).2 }) := by
  unfold ensureRead
  exact exec_onStore_ok h

/-- A create on a store without the key writes it, once, with the text it carries. -/
theorem create_absent {v : String} (hc : s.Consistent) (hr : 0 ≤ s.revision)
    (absent : s.find? key = none) :
    ∃ rev e, (s.txn now (descriptorCreate key v)).1 = .ok (true, rev) ∧
      (s.txn now (descriptorCreate key v)).2.find? key = some e ∧ e.WrittenOnce ∧ e.value = v := by
  obtain ⟨⟨ok, rev⟩, answered⟩ : ∃ r, (s.txn now (descriptorCreate key v)).1 = .ok r :=
    Store.txn_ok hc fun k v' id hmem => by simp [descriptorCreate] at hmem
  obtain ⟨holds, -, applied⟩ := Store.txn_applied hc answered
  have pruned := Store.Prunes.expire hc now
  -- the sweep adds no key, so the key is absent where the create looks
  have gone : (s.expire now).find? key = none := by
    cases ht : (s.expire now).find? key with
    | none => rfl
    | some e => rw [pruned.kept key e ht] at absent; cases absent
  have wrote : ok = true := by
    rw [holds]
    simp [descriptorCreate, Store.holds, gone]
  subst wrote
  have picked : (Store.Call.txn now (descriptorCreate key v)).writesAt (s.expire now) =
      [.put key v .detach] := by
    simp [Store.Call.writesAt, descriptorCreate, Store.holds, gone]
  have hpos : 0 < (s.expire now).revision + 1 :=
    Int.lt_add_one_iff.2 (hr.trans pruned.revision_le)
  refine ⟨rev, ⟨key, v, (s.expire now).revision + 1, (s.expire now).revision + 1, 1, 0⟩,
    answered, ?_, ⟨rfl, rfl, hpos, rfl⟩, rfl⟩
  rw [applied.find? key, picked]
  simp [WriteOp.entryAfter, gone, LeaseBinding.target]

/-- A create on a store whose key holds an entry written once answers that it did not write,
and leaves the entry. -/
theorem create_taken {v : String} {e : KeyValue} (hc : s.Consistent)
    (he : s.find? key = some e) (once : e.WrittenOnce) :
    ∃ rev, (s.txn now (descriptorCreate key v)).1 = .ok (false, rev) ∧
      (s.txn now (descriptorCreate key v)).2.find? key = some e := by
  obtain ⟨⟨ok, rev⟩, answered⟩ : ∃ r, (s.txn now (descriptorCreate key v)).1 = .ok r :=
    Store.txn_ok hc fun k v' id hmem => by simp [descriptorCreate] at hmem
  obtain ⟨holds, -, applied⟩ := Store.txn_applied hc answered
  -- the sweep keeps the entry, held by no lease; its revision is past 0
  have kept : (s.expire now).find? key = some e :=
    (Store.Prunes.expire hc now).unleased key e he once.unleased
  have refused : ok = false := by
    rw [holds]
    simp [descriptorCreate, Store.holds, kept, ne_of_gt once.positive]
  subst refused
  have picked : (Store.Call.txn now (descriptorCreate key v)).writesAt (s.expire now) = [] := by
    simp [Store.Call.writesAt, descriptorCreate, Store.holds, kept, ne_of_gt once.positive]
  refine ⟨rev, answered, ?_⟩
  rw [applied.find? key, picked, List.foldl_nil, kept]

theorem get_held_entry {e : KeyValue} (hc : s.Consistent) (he : s.find? key = some e)
    (hl : e.lease = 0) :
    (s.get now key).1 = .ok (some e, (s.expire now).revision) ∧
      (s.get now key).2.find? key = some e := by
  have kept : (s.expire now).find? key = some e :=
    (Store.Prunes.expire hc now).unleased key e he hl
  rw [Store.get_eq, kept]
  exact ⟨rfl, by rw [Store.find?_publish, kept]⟩

end

/-! ## Attempts and races -/

/-- Where one attempt at a descriptor stands between its store calls. -/
inductive Attempt where
  /-- About to start a round, with `left` more rounds after it. -/
  | round (left : Nat)
  /-- Its create found the key taken; its read is next, with `left` rounds after it. -/
  | reading (left : Nat)
  /-- Its create wrote the key, and it answered. -/
  | created
  /-- It answered this, without writing. -/
  | answered (r : Except Error Unit)

/-- Where an attempt stands after the answer of its create. -/
def Attempt.ofCreate (left : Nat) : Except Error (Bool × Revision) → Attempt
  | .ok (true, _) => .created
  | .ok (false, _) => .reading left
  | .error e => .answered (.error e)

/-- Where an attempt at `d` stands after the answer of its read. -/
def Attempt.ofRead (d : Descriptor) (left : Nat) : Except Error (Option KeyValue × Revision) →
    Attempt
  | .ok (none, _) => .round left
  | .ok (some kv, _) => .answered (d.judge kv)
  | .error e => .answered (.error e)

/-- Attempts, named by `ι`, with the plane they share. -/
structure Race (ι : Type) where
  plane : Plane
  attempt : ι → Attempt

namespace Race

variable {ι : Type}

/-- The race with attempt `i` moved to `a`, on plane `p`. -/
def move [DecidableEq ι] (r : Race ι) (i : ι) (a : Attempt) (p : Plane) : Race ι :=
  ⟨p, Function.update r.attempt i a⟩

/-- The descriptor key of attempt `i`'s zone. -/
def keyOf (desc : ι → Descriptor) (p : Plane) (i : ι) : String :=
  p.keyspace.descriptorKey (desc i).service (desc i).zone

/-- One step of a race of attempts at descriptors `desc` of the zone whose descriptor key is
`key`: an attempt makes its next store call, or answers when it has no round left; another call
that neither puts nor deletes `key` is made; or the clock moves. -/
inductive Step [DecidableEq ι] (key : String) (desc : ι → Descriptor) : Race ι → Race ι → Prop where
  | giveUp (r : Race ι) (i : ι) (h : r.attempt i = .round 0) :
      Step key desc r
        (r.move i (.answered ((ensureDescriptor.go (desc i) 0).exec r.plane).1) r.plane)
  | create (r : Race ι) (i : ι) (n : Nat) (h : r.attempt i = .round (n + 1)) :
      Step key desc r (r.move i (Attempt.ofCreate n ((ensureCreate (keyOf desc r.plane i)
        (desc i)).exec r.plane).1) ((ensureCreate (keyOf desc r.plane i) (desc i)).exec r.plane).2)
  | read (r : Race ι) (i : ι) (n : Nat) (h : r.attempt i = .reading n) :
      Step key desc r (r.move i (Attempt.ofRead (desc i) n ((ensureRead (keyOf desc r.plane i)).exec
        r.plane).1) ((ensureRead (keyOf desc r.plane i)).exec r.plane).2)
  | other (r : Race ι) (c : Store.Call) (hput : ∀ t v b, .put key v b ∉ c.writesAt t)
      (hdel : ∀ t, .delete key ∉ c.writesAt t) :
      Step key desc r ⟨{ r.plane with store := c.apply r.plane.store }, r.attempt⟩
  | tick (r : Race ι) (now : Nat) : Step key desc r ⟨{ r.plane with clock := now }, r.attempt⟩

/-- A race about to start: every attempt is at a descriptor whose key is `key` and has all its
rounds ahead, and the store is consistent, past revision 0, and without the key. -/
structure Start (key : String) (desc : ι → Descriptor) (r : Race ι) : Prop where
  consistent : r.plane.store.Consistent
  revision : 0 ≤ r.plane.store.revision
  keys : ∀ i, keyOf desc r.plane i = key
  absent : r.plane.store.find? key = none
  fresh : ∀ i, r.attempt i = .round maxAttempts

/-- Attempt `c` created the key, which holds `e`, its descriptor written once; every other
attempt is about to create, about to read, or answered the judgement of `e`. -/
structure TakenBy (key : String) (desc : ι → Descriptor) (r : Race ι) (c : ι) (e : KeyValue) :
    Prop where
  created : r.attempt c = .created
  entry : r.plane.store.find? key = some e
  once : e.WrittenOnce
  text : e.value = (desc c).text
  others : ∀ i, i ≠ c → r.attempt i = .round maxAttempts ∨
    r.attempt i = .reading (maxAttempts - 1) ∨ r.attempt i = .answered ((desc i).judge e)

/-- What every step of a race keeps: the store stays consistent and past revision 0, every
attempt's key is `key`, and either no attempt has moved with the key absent, or one attempt
took the key. -/
structure Settled (key : String) (desc : ι → Descriptor) (r : Race ι) : Prop where
  consistent : r.plane.store.Consistent
  revision : 0 ≤ r.plane.store.revision
  keys : ∀ i, keyOf desc r.plane i = key
  phase : (r.plane.store.find? key = none ∧ ∀ i, r.attempt i = .round maxAttempts) ∨
    ∃ c e, TakenBy key desc r c e

section

variable {key : String} {desc : ι → Descriptor} {r : Race ι} {i j : ι}

theorem Start.settled (h : Start key desc r) : Settled key desc r :=
  ⟨h.consistent, h.revision, h.keys, .inl ⟨h.absent, h.fresh⟩⟩

theorem TakenBy.eq_of_created {c : ι} {e : KeyValue} (h : TakenBy key desc r c e)
    (hi : r.attempt i = .created) : i = c := by
  by_contra hic
  rcases h.others i hic with h' | h' | h' <;> rw [h'] at hi <;> cases hi

theorem Settled.unleased (h : Settled key desc r) {e : KeyValue}
    (he : r.plane.store.find? key = some e) : e.lease = 0 := by
  rcases h.phase with ⟨absent, -⟩ | ⟨c, e', taken⟩
  · rw [absent] at he; cases he
  · rw [taken.entry] at he
    cases he
    exact taken.once.unleased

/-- No attempt runs out of rounds: a create that finds the key taken is followed by a read that
finds it there. -/
theorem Settled.not_round_zero (h : Settled key desc r) (i : ι) : r.attempt i ≠ .round 0 := by
  intro hi
  rcases h.phase with ⟨-, fresh⟩ | ⟨c, e, taken⟩
  · rw [fresh i] at hi
    exact absurd (Attempt.round.inj hi) (by decide)
  · by_cases hic : i = c
    · rw [hic, taken.created] at hi
      cases hi
    · rcases taken.others i hic with h' | h' | h' <;> rw [h'] at hi
      · exact absurd (Attempt.round.inj hi) (by decide)
      · cases hi
      · cases hi

theorem Settled.other (h : Settled key desc r) (c : Store.Call)
    (hput : ∀ t v b, .put key v b ∉ c.writesAt t) (hdel : ∀ t, .delete key ∉ c.writesAt t) :
    Settled key desc ⟨{ r.plane with store := c.apply r.plane.store }, r.attempt⟩ := by
  have kept : (c.apply r.plane.store).find? key = r.plane.store.find? key :=
    Store.Call.find?_apply_of_untouched h.consistent hput hdel fun _ he => h.unleased he
  refine ⟨h.consistent.apply c, h.revision.trans (Store.Call.revision_le_apply h.consistent c),
    h.keys, ?_⟩
  rcases h.phase with ⟨absent, fresh⟩ | ⟨c', e, taken⟩
  · exact .inl ⟨kept.trans absent, fresh⟩
  · exact .inr ⟨c', e, taken.created, kept.trans taken.entry, taken.once, taken.text, taken.others⟩

theorem Settled.tick (h : Settled key desc r) (now : Nat) :
    Settled key desc ⟨{ r.plane with clock := now }, r.attempt⟩ := by
  refine ⟨h.consistent, h.revision, h.keys, ?_⟩
  rcases h.phase with ⟨absent, fresh⟩ | ⟨c, e, taken⟩
  · exact .inl ⟨absent, fresh⟩
  · exact .inr ⟨c, e, taken.created, taken.entry, taken.once, taken.text, taken.others⟩

variable [DecidableEq ι] {a : Attempt} {p : Plane}

theorem move_self : (r.move i a p).attempt i = a := by
  simp [move]

theorem move_of_ne (h : j ≠ i) : (r.move i a p).attempt j = r.attempt j := by
  simp [move, h]

theorem Settled.create (h : Settled key desc r) {n : Nat} (hi : r.attempt i = .round (n + 1)) :
    Settled key desc (r.move i (Attempt.ofCreate n ((ensureCreate (keyOf desc r.plane i)
      (desc i)).exec r.plane).1) ((ensureCreate (keyOf desc r.plane i) (desc i)).exec r.plane).2) := by
  have hc := h.consistent
  rw [h.keys i]
  rcases h.phase with ⟨absent, fresh⟩ | ⟨c, e, taken⟩
  · -- the first create writes the key, and its attempt becomes the creator
    obtain ⟨rev, e, answered, entry, once, text⟩ := create_absent hc h.revision absent
    rw [exec_ensureCreate answered]
    refine ⟨hc.apply (.txn _ _), h.revision.trans (Store.Call.revision_le_apply hc (.txn _ _)),
      h.keys, .inr ⟨i, e, move_self, entry, once, text, fun j hj => .inl ?_⟩⟩
    rw [move_of_ne hj, fresh j]
  · -- the key is taken: the create finds it so, and the attempt goes on to read
    have hic : i ≠ c := fun hic => by rw [hic, taken.created] at hi; cases hi
    have first : n = maxAttempts - 1 := by
      rcases taken.others i hic with h' | h' | h' <;> rw [h'] at hi <;> cases hi
      rfl
    obtain ⟨rev, answered, entry⟩ := create_taken hc taken.entry taken.once
    rw [exec_ensureCreate answered]
    refine ⟨hc.apply (.txn _ _), h.revision.trans (Store.Call.revision_le_apply hc (.txn _ _)),
      h.keys, .inr ⟨c, e, ?_, entry, taken.once, taken.text, fun j hj => ?_⟩⟩
    · rw [move_of_ne hic.symm]
      exact taken.created
    · by_cases hji : j = i
      · rw [hji, move_self, first]
        exact .inr (.inl rfl)
      · rw [move_of_ne hji]
        exact taken.others j hj

theorem Settled.read (h : Settled key desc r) {n : Nat} (hi : r.attempt i = .reading n) :
    Settled key desc (r.move i (Attempt.ofRead (desc i) n ((ensureRead (keyOf desc r.plane i)).exec
      r.plane).1) ((ensureRead (keyOf desc r.plane i)).exec r.plane).2) := by
  have hc := h.consistent
  rw [h.keys i]
  rcases h.phase with ⟨-, fresh⟩ | ⟨c, e, taken⟩
  · rw [fresh i] at hi
    cases hi
  · -- only a create that found the key taken reads, and the read finds the creator's entry
    have hic : i ≠ c := fun hic => by rw [hic, taken.created] at hi; cases hi
    obtain ⟨answered, entry⟩ := get_held_entry hc taken.entry taken.once.unleased
    rw [exec_ensureRead answered]
    refine ⟨hc.apply (.get r.plane.clock key),
      h.revision.trans (Store.Call.revision_le_apply hc (.get r.plane.clock key)),
      h.keys, .inr ⟨c, e, ?_, entry, taken.once, taken.text, fun j hj => ?_⟩⟩
    · rw [move_of_ne hic.symm]
      exact taken.created
    · by_cases hji : j = i
      · rw [hji, move_self]
        exact .inr (.inr rfl)
      · rw [move_of_ne hji]
        exact taken.others j hj

theorem Settled.step {r' : Race ι} (h : Settled key desc r) (hs : Step key desc r r') :
    Settled key desc r' := by
  cases hs with
  | giveUp i hi => exact absurd hi (h.not_round_zero i)
  | create i n hi => exact h.create hi
  | read i n hi => exact h.read hi
  | other c hput hdel => exact h.other c hput hdel
  | tick now => exact h.tick now

theorem settled_of_reaches {r' : Race ι} (h : Start key desc r)
    (hr : Relation.ReflTransGen (Step key desc) r r') : Settled key desc r' := by
  induction hr with
  | refl => exact h.settled
  | tail _ hs ih => exact ih.step hs

end

/-! ## What a race ends with -/

section

variable {key : String} {desc : ι → Descriptor} {r : Race ι} {c i j : ι}

theorem Settled.created_unique (h : Settled key desc r) (hi : r.attempt i = .created)
    (hj : r.attempt j = .created) : i = j := by
  rcases h.phase with ⟨-, fresh⟩ | ⟨c, e, taken⟩
  · rw [fresh i] at hi
    cases hi
  · rw [taken.eq_of_created hi, taken.eq_of_created hj]

/-- Once every attempt has answered, one of them created the key, which holds its descriptor
written once. -/
theorem Settled.creator [Nonempty ι] (h : Settled key desc r)
    (done : ∀ i, r.attempt i = .created ∨ ∃ a, r.attempt i = .answered a) :
    ∃ c e, r.attempt c = .created ∧ r.plane.store.find? key = some e ∧ e.WrittenOnce ∧
      e.value = (desc c).text := by
  rcases h.phase with ⟨-, fresh⟩ | ⟨c, e, taken⟩
  · obtain ⟨i⟩ := ‹Nonempty ι›
    rcases done i with hi | ⟨a, hi⟩ <;> rw [fresh i] at hi <;> cases hi
  · exact ⟨c, e, taken.created, taken.entry, taken.once, taken.text⟩

/-- An attempt that answered without writing answered the judgement of the creator's
descriptor. -/
theorem Settled.answer (h : Settled key desc r) {a : Except Error Unit}
    (hc : r.attempt c = .created) (hi : r.attempt i = .answered a) :
    a = if (desc c).computeHash == (desc i).contentHash then .ok () else
      .error ⟨.changedServiceDesc,
        (desc i).service ++ "/" ++ (desc i).zone ++ " differs from the registered descriptor"⟩ := by
  rcases h.phase with ⟨-, fresh⟩ | ⟨c', e, taken⟩
  · rw [fresh c] at hc
    cases hc
  · have creator : c = c' := taken.eq_of_created hc
    subst creator
    have hic : i ≠ c := fun hic => by rw [hic, taken.created] at hi; cases hi
    -- the answer is the judgement of the creator's entry, the only one an attempt can read
    rcases taken.others i hic with h' | h' | h' <;> rw [h'] at hi <;> cases hi
    exact Descriptor.judge_text (desc i) (desc c) taken.text

theorem Settled.answer_same (h : Settled key desc r) {a : Except Error Unit}
    (hc : r.attempt c = .created) (hi : r.attempt i = .answered a)
    (hashed : (desc i).contentHash = (desc i).computeHash) (same : (desc i).SameContent (desc c)) :
    a = .ok () := by
  rw [h.answer hc hi, hashed, Descriptor.computeHash_eq same]
  exact if_pos (beq_self_eq_true _)

/-- An attempt at a hashed descriptor that hashes otherwise than the creator's fails as
changed. -/
theorem Settled.answer_changed (h : Settled key desc r) {a : Except Error Unit}
    (hc : r.attempt c = .created) (hi : r.attempt i = .answered a)
    (hashed : (desc i).contentHash = (desc i).computeHash)
    (differs : (desc c).computeHash ≠ (desc i).computeHash) :
    a = .error ⟨.changedServiceDesc,
      (desc i).service ++ "/" ++ (desc i).zone ++ " differs from the registered descriptor"⟩ := by
  rw [h.answer hc hi, hashed]
  exact if_neg (by simpa using differs)

end

end Race

/-! ## The protocol -/

/-- Descriptor keys are created once and never rewritten, under every interleaving of registry
calls; a plug that succeeds found each of its descriptors stored with its content hash; and of
the attempts that race to create one zone's descriptor, at most one creates it, one has once all
have answered, those with its content pass, and those with other content fail as changed, when
the hash tells contents apart. -/
theorem descriptors_written_once_and_matched (ks : KeySpace) (policy : AddressPolicy) :
    (∀ s, Interleaved ks policy s → DescriptorsFresh ks s ∧
      ∀ c k service zone e e', RegistryCall ks policy c →
        ks.decode k = some ⟨service, zone, .descriptor⟩ → s.find? k = some e →
        (c.apply s).find? k = some e' → e' = e) ∧
    (∀ (p p' : Plane) descs endpoint ttl lease grant, p.keyspace = ks →
      Interleaved ks policy p.store → (plugAll descs endpoint ttl lease).exec p = (.ok grant, p') →
      ∀ ds, descs.mapM prepareDescriptor = .ok ds → ∀ d ∈ ds, Observed ks d p'.store) ∧
    (∀ {ι : Type} [DecidableEq ι] (key : String) (desc : ι → Descriptor) (r r' : Race ι),
      Race.Start key desc r → Relation.ReflTransGen (Race.Step key desc) r r' →
      (∀ i, (desc i).contentHash = (desc i).computeHash) →
      (∀ i j, ¬ (desc i).SameContent (desc j) → (desc j).computeHash ≠ (desc i).computeHash) →
      (∀ i j, r'.attempt i = .created → r'.attempt j = .created → i = j) ∧
      (Nonempty ι → (∀ i, r'.attempt i = .created ∨ ∃ a, r'.attempt i = .answered a) →
        ∃ c e, r'.attempt c = .created ∧ r'.plane.store.find? key = some e ∧ e.version = 1 ∧
          e.value = (desc c).text) ∧
      (∀ c i a, r'.attempt c = .created → r'.attempt i = .answered a →
        ((desc i).SameContent (desc c) → a = .ok ()) ∧
        (¬ (desc i).SameContent (desc c) → a = .error ⟨.changedServiceDesc,
          (desc i).service ++ "/" ++ (desc i).zone ++ " differs from the registered descriptor"⟩))) := by
  refine ⟨fun s h => ⟨h.descriptorsFresh, fun c k service zone e e' hcall hk he he' =>
    h.descriptorsFresh.kept h.reachable.consistent hcall hk he he'⟩, ?_, ?_⟩
  · intro p p' descs endpoint ttl lease grant hk h ran
    have ends := (plugAll_observes descs endpoint ttl lease).run p (h.observing hk)
    rw [ran] at ends
    exact ends
  · intro ι _ key desc r r' start reach hashed separates
    have h := Race.settled_of_reaches start reach
    refine ⟨fun i j => h.created_unique, fun _ done => ?_, fun c i a hc hi =>
      ⟨h.answer_same hc hi (hashed i), fun differs =>
        h.answer_changed hc hi (hashed i) (separates i c differs)⟩⟩
    obtain ⟨c, e, hc, entry, once, text⟩ := h.creator done
    exact ⟨c, e, hc, entry, once.version, text⟩

/-- Two attempts at one hashed descriptor race on an empty store: in every interleaving at most
one of them creates the key, and once one has, the other passes. -/
theorem racing_one_descriptor_on_empty_store :
    let d := Descriptor.hashed { service := "orders:1.0", zone := "dc-1", kind := "grpc" }
    let r : Race Bool := ⟨{ store := Store.make 0 0 }, fun _ => .round maxAttempts⟩
    let key := r.plane.keyspace.descriptorKey d.service d.zone
    ∀ r', Relation.ReflTransGen (Race.Step key fun _ => d) r r' →
      (∀ i j, r'.attempt i = .created → r'.attempt j = .created → i = j) ∧
      ∀ c i a, r'.attempt c = .created → r'.attempt i = .answered a → a = .ok () := by
  intro d r key r' reach
  have start : Race.Start key (fun _ => d) r :=
    ⟨(Interleaved.make 0 0 : Interleaved r.plane.keyspace r.plane.policy _).reachable.consistent,
      by decide, fun _ => rfl, rfl, fun _ => rfl⟩
  have same : d.SameContent d := ⟨rfl, rfl, rfl, rfl, rfl⟩
  obtain ⟨unique, -, answers⟩ := (descriptors_written_once_and_matched r.plane.keyspace
    r.plane.policy).2.2 key (fun _ => d) r r' start reach (fun _ => rfl)
    fun _ _ differs => absurd same differs
  exact ⟨unique, fun c i a hc hi => (answers c i a hc hi).1 same⟩

end ControlPlane
