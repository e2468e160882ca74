import Mathlib.Data.List.Pairwise
import ControlPlane.Index.Table

/-!
# Service rows

What the writes of the service table do, row by row. An upsert gives the zone of each
descriptor rows that are active under its hash and leaves the rows of other zones as they are;
marking rows verified and soft-deleting rows change each row in place, keeping its number and
zone, and only ever delete it or verify it (`Index.Advances`). Rows keep increasing positive
numbers below the next one (`Index.Numbered`), which is what lets a reader page through them by
number.
-/

namespace ControlPlane

instance : LawfulBEq RowStatus where
  eq_of_beq {a b} h := by cases a <;> cases b <;> first | rfl | cases h
  rfl {a} := by cases a <;> rfl

namespace Index

/-- The rows are numbered in increasing order from 1, each below the next number. -/
structure Numbered (ix : Index) : Prop where
  sorted : ix.services.Pairwise fun a b => a.id < b.id
  positive : ∀ r ∈ ix.services, 0 < r.id
  below : ∀ r ∈ ix.services, r.id < ix.nextServiceId
  nextPositive : 0 < ix.nextServiceId

/-- `r'` is row `r` with its number and zone kept, and either soft-deleted, or with its status
and hash kept and verified if `r` was. -/
def RowAdvances (r r' : ServiceRow) : Prop :=
  r'.id = r.id ∧ r'.service = r.service ∧ r'.zone = r.zone ∧
    (r'.status = .deleted ∨
      (r'.status = r.status ∧ r'.contentHash = r.contentHash ∧ (r.verified = true → r'.verified = true)))

/-- `ix'` changes each row of `ix` in place, deleting or verifying it, and keeps the counter,
whether the database is open and which calls fail. -/
structure Advances (ix ix' : Index) : Prop where
  rows : ∃ f : ServiceRow → ServiceRow, (∀ r, RowAdvances r (f r)) ∧ ix'.services = ix.services.map f
  next : ix'.nextServiceId = ix.nextServiceId
  closed : ix'.closed = ix.closed
  faults : ix'.faults = ix.faults

variable {ix ix' : Index} {now : Nat} {verified : Bool} {d : Descriptor} {r : ServiceRow}

theorem answers_iff_of_eq (hc : ix'.closed = ix.closed) (hf : ix'.faults = ix.faults)
    {call : IndexCall} : ix'.Answers call ↔ ix.Answers call := by
  unfold Answers
  rw [hc, hf]

theorem sorted_map {rows : List ServiceRow} {f : ServiceRow → ServiceRow}
    (hf : ∀ r, (f r).id = r.id) (h : rows.Pairwise fun a b => a.id < b.id) :
    (rows.map f).Pairwise fun a b => a.id < b.id := by
  rw [List.pairwise_map]
  refine h.imp fun {a b} hab => ?_
  rw [hf a, hf b]
  exact hab

theorem Advances.numbered (h : ix.Advances ix') (hn : ix.Numbered) : ix'.Numbered := by
  obtain ⟨f, hf, hrows⟩ := h.rows
  refine ⟨hrows ▸ sorted_map (fun r => (hf r).1) hn.sorted, fun r' hr' => ?_, fun r' hr' => ?_,
    h.next ▸ hn.nextPositive⟩
  · rw [hrows] at hr'
    obtain ⟨r, hr, rfl⟩ := List.mem_map.1 hr'
    rw [(hf r).1]
    exact hn.positive r hr
  · rw [hrows] at hr'
    obtain ⟨r, hr, rfl⟩ := List.mem_map.1 hr'
    rw [(hf r).1, h.next]
    exact hn.below r hr

theorem RowAdvances.refl (r : ServiceRow) : RowAdvances r r :=
  ⟨rfl, rfl, rfl, .inr ⟨rfl, rfl, id⟩⟩

theorem RowAdvances.trans {r₁ r₂ r₃ : ServiceRow} (h₁ : RowAdvances r₁ r₂) (h₂ : RowAdvances r₂ r₃) :
    RowAdvances r₁ r₃ := by
  obtain ⟨i₁, s₁, z₁, st₁⟩ := h₁
  obtain ⟨i₂, s₂, z₂, st₂⟩ := h₂
  refine ⟨i₂.trans i₁, s₂.trans s₁, z₂.trans z₁, ?_⟩
  -- a row deleted on the way stays deleted
  rcases st₂ with del | ⟨st, hh, hv⟩
  · exact .inl del
  rcases st₁ with del | ⟨st', hh', hv'⟩
  · exact .inl (st.trans del)
  · exact .inr ⟨st.trans st', hh.trans hh', hv ∘ hv'⟩

theorem advances_of_map {f : ServiceRow → ServiceRow} (hf : ∀ r, RowAdvances r (f r)) :
    ix.Advances { ix with services := ix.services.map f } :=
  ⟨⟨f, hf, rfl⟩, rfl, rfl, rfl⟩

theorem Advances.refl (ix : Index) : ix.Advances ix :=
  ⟨⟨id, RowAdvances.refl, (List.map_id _).symm⟩, rfl, rfl, rfl⟩

theorem Advances.trans {ix₃ : Index} (h₁ : ix.Advances ix') (h₂ : ix'.Advances ix₃) :
    ix.Advances ix₃ := by
  obtain ⟨f, hf, rows₁⟩ := h₁.rows
  obtain ⟨g, hg, rows₂⟩ := h₂.rows
  refine ⟨⟨g ∘ f, fun r => (hf r).trans (hg (f r)), ?_⟩, h₂.next.trans h₁.next,
    h₂.closed.trans h₁.closed, h₂.faults.trans h₁.faults⟩
  rw [rows₂, rows₁, List.map_map]

theorem Advances.answers (h : ix.Advances ix') {call : IndexCall} :
    ix'.Answers call ↔ ix.Answers call :=
  answers_iff_of_eq h.closed h.faults

theorem Advances.mem {r' : ServiceRow} (h : ix.Advances ix') (hr : r' ∈ ix'.services) :
    ∃ r ∈ ix.services, RowAdvances r r' := by
  obtain ⟨f, hf, rows⟩ := h.rows
  rw [rows] at hr
  obtain ⟨r₀, hr₀, rfl⟩ := List.mem_map.1 hr
  exact ⟨r₀, hr₀, hf r₀⟩

theorem Advances.image (h : ix.Advances ix') (hr : r ∈ ix.services) :
    ∃ r' ∈ ix'.services, RowAdvances r r' := by
  obtain ⟨f, hf, rows⟩ := h.rows
  exact ⟨f r, rows ▸ List.mem_map_of_mem hr, hf r⟩

/-! ## Upserts -/

@[simp] theorem upsertRow_next : (ix.upsertRow now verified d).nextServiceId = ix.nextServiceId + 1 := by
  unfold upsertRow
  dsimp only
  split <;> rfl

@[simp] theorem upsertRow_closed : (ix.upsertRow now verified d).closed = ix.closed := by
  unfold upsertRow
  dsimp only
  split <;> rfl

@[simp] theorem upsertRow_faults : (ix.upsertRow now verified d).faults = ix.faults := by
  unfold upsertRow
  dsimp only
  split <;> rfl

/-- An upsert either rewrites the rows of the descriptor's zone in place, or appends one under
the next number. -/
theorem upsertRow_services (ix : Index) (now : Nat) (verified : Bool) (d : Descriptor) :
    (∃ f : ServiceRow → ServiceRow, (∀ r, (f r).id = r.id ∧ (f r).service = r.service ∧
        (f r).zone = r.zone ∧ ((r.service = d.service ∧ r.zone = d.zone) →
          (f r).status = .active ∧ (f r).contentHash = d.contentHash) ∧
        (¬ (r.service = d.service ∧ r.zone = d.zone) → f r = r)) ∧
      (∃ r ∈ ix.services, r.service = d.service ∧ r.zone = d.zone) ∧
      (ix.upsertRow now verified d).services = ix.services.map f) ∨
    ((∀ r ∈ ix.services, ¬ (r.service = d.service ∧ r.zone = d.zone)) ∧
      ∃ fresh : ServiceRow, fresh.id = ix.nextServiceId ∧ fresh.service = d.service ∧
        fresh.zone = d.zone ∧ fresh.status = .active ∧ fresh.contentHash = d.contentHash ∧
        (ix.upsertRow now verified d).services = ix.services ++ [fresh]) := by
  unfold upsertRow
  dsimp only
  split
  · rename_i present
    refine .inl ⟨_, fun r => ?_, ?_, rfl⟩
    · by_cases hr : r.service = d.service ∧ r.zone = d.zone
      · simp [hr]
      · have miss : (r.service == d.service && r.zone == d.zone) = false := by
          simpa using hr
        simp [miss, hr]
    · obtain ⟨r, hr, hz⟩ := List.any_eq_true.1 present
      exact ⟨r, hr, by simpa using hz⟩
  · rename_i absent
    refine .inr ⟨fun r hr hz => absent (List.any_eq_true.2 ⟨r, hr, by simpa using hz⟩), _, rfl,
      rfl, rfl, rfl, rfl, rfl⟩

theorem Numbered.upsertRow (h : ix.Numbered) : (ix.upsertRow now verified d).Numbered := by
  rcases upsertRow_services ix now verified d with
    ⟨f, hf, -, hrows⟩ | ⟨-, fresh, hid, -, -, -, -, hrows⟩
  · -- rows keep their numbers; the counter moves on
    have next := h.nextPositive
    refine ⟨hrows ▸ sorted_map (fun r => (hf r).1) h.sorted, fun r' hr' => ?_, fun r' hr' => ?_,
      by rw [upsertRow_next]; omega⟩
    · rw [hrows] at hr'
      obtain ⟨r, hr, rfl⟩ := List.mem_map.1 hr'
      rw [(hf r).1]
      exact h.positive r hr
    · rw [hrows] at hr'
      obtain ⟨r, hr, rfl⟩ := List.mem_map.1 hr'
      rw [(hf r).1, upsertRow_next]
      have := h.below r hr
      omega
  · -- the appended row takes the counter, above every row before it
    have next := h.nextPositive
    refine ⟨?_, fun r' hr' => ?_, fun r' hr' => ?_, by rw [upsertRow_next]; omega⟩
    · rw [hrows, List.pairwise_append]
      refine ⟨h.sorted, List.pairwise_singleton _ _, fun a ha b hb => ?_⟩
      rw [List.mem_singleton.1 hb, hid]
      exact h.below a ha
    · rw [hrows, List.mem_append, List.mem_singleton] at hr'
      rcases hr' with hr' | rfl
      · exact h.positive r' hr'
      · rw [hid]
        exact next
    · rw [hrows, List.mem_append, List.mem_singleton] at hr'
      rw [upsertRow_next]
      rcases hr' with hr' | rfl
      · have := h.below r' hr'
        omega
      · rw [hid]
        omega

/-- The rows of other zones are what they were. -/
theorem mem_upsertRow_of_other (hr : ¬ (r.service = d.service ∧ r.zone = d.zone)) :
    r ∈ (ix.upsertRow now verified d).services ↔ r ∈ ix.services := by
  rcases upsertRow_services ix now verified d with
    ⟨f, hf, -, hrows⟩ | ⟨-, fresh, -, hs, hz, -, -, hrows⟩
  · rw [hrows, List.mem_map]
    constructor
    · rintro ⟨r₀, hr₀, rfl⟩
      obtain ⟨-, hs, hz, -, hother⟩ := hf r₀
      rw [hs, hz] at hr
      rw [hother hr]
      exact hr₀
    · intro hr'
      exact ⟨r, hr', (hf r).2.2.2.2 hr⟩
  · rw [hrows, List.mem_append, List.mem_singleton]
    refine ⟨fun h => h.resolve_right fun same => hr ?_, .inl⟩
    rw [same]
    exact ⟨hs, hz⟩

/-- After an upsert the descriptor's zone has a row, and each of its rows is active under the
descriptor's hash. -/
theorem upsertRow_zone :
    (∃ r ∈ (ix.upsertRow now verified d).services, r.service = d.service ∧ r.zone = d.zone) ∧
      ∀ r ∈ (ix.upsertRow now verified d).services, r.service = d.service → r.zone = d.zone →
        r.status = .active ∧ r.contentHash = d.contentHash := by
  rcases upsertRow_services ix now verified d with
    ⟨f, hf, ⟨r, hr, hz⟩, hrows⟩ | ⟨absent, fresh, -, hs, hz, hst, hh, hrows⟩
  · rw [hrows]
    refine ⟨⟨f r, List.mem_map_of_mem hr, ?_⟩, fun r' hr' hs' hz' => ?_⟩
    · rw [(hf r).2.1, (hf r).2.2.1]
      exact hz
    · obtain ⟨r₀, -, rfl⟩ := List.mem_map.1 hr'
      obtain ⟨-, hs₀, hz₀, hzone, -⟩ := hf r₀
      exact hzone ⟨hs₀ ▸ hs', hz₀ ▸ hz'⟩
  · rw [hrows]
    refine ⟨⟨fresh, List.mem_append_right _ (List.mem_singleton_self _), hs, hz⟩,
      fun r' hr' hs' hz' => ?_⟩
    rcases List.mem_append.1 hr' with hr' | hr'
    · exact absurd ⟨hs', hz'⟩ (absent r' hr')
    · rw [List.mem_singleton.1 hr']
      exact ⟨hst, hh⟩

/-- The zone of `d` has rows, and each is active under the hash of `d`. -/
def PendingRows (rows : List ServiceRow) (d : Descriptor) : Prop :=
  (∃ r ∈ rows, r.service = d.service ∧ r.zone = d.zone) ∧
    ∀ r ∈ rows, r.service = d.service → r.zone = d.zone →
      r.status = .active ∧ r.contentHash = d.contentHash

theorem PendingRows.of_zone {rows rows' : List ServiceRow} (h : PendingRows rows d)
    (same : ∀ r, r.service = d.service → r.zone = d.zone → (r ∈ rows' ↔ r ∈ rows)) :
    PendingRows rows' d := by
  obtain ⟨⟨r, hr, hs, hz⟩, hall⟩ := h
  exact ⟨⟨r, (same r hs hz).2 hr, hs, hz⟩, fun r' hr' hs' hz' => hall r' ((same r' hs' hz').1 hr') hs' hz'⟩

theorem PendingRows.congr {rows : List ServiceRow} {d' : Descriptor} (h : PendingRows rows d')
    (hs : d'.service = d.service) (hz : d'.zone = d.zone) (hh : d'.contentHash = d.contentHash) :
    PendingRows rows d := by
  obtain ⟨⟨r, hr, hs', hz'⟩, hall⟩ := h
  refine ⟨⟨r, hr, hs'.trans hs, hz'.trans hz⟩, fun r hr hs' hz' => ?_⟩
  obtain ⟨active, hash⟩ := hall r hr (hs'.trans hs.symm) (hz'.trans hz.symm)
  exact ⟨active, hash.trans hh⟩

theorem upsertRow_pending : PendingRows (ix.upsertRow now verified d).services d :=
  upsertRow_zone

theorem foldl_upsertRow_closed :
    ∀ (descs : List Descriptor) (ix : Index),
      (descs.foldl (upsertRow now verified) ix).closed = ix.closed
  | [], _ => rfl
  | d :: descs, ix => by rw [List.foldl_cons, foldl_upsertRow_closed descs, upsertRow_closed]

theorem foldl_upsertRow_faults :
    ∀ (descs : List Descriptor) (ix : Index),
      (descs.foldl (upsertRow now verified) ix).faults = ix.faults
  | [], _ => rfl
  | d :: descs, ix => by rw [List.foldl_cons, foldl_upsertRow_faults descs, upsertRow_faults]

theorem foldl_upsertRow_answers (descs : List Descriptor) (ix : Index) {call : IndexCall} :
    (descs.foldl (upsertRow now verified) ix).Answers call ↔ ix.Answers call :=
  answers_iff_of_eq (foldl_upsertRow_closed descs ix) (foldl_upsertRow_faults descs ix)

theorem Numbered.foldl_upsertRow :
    ∀ (descs : List Descriptor) {ix : Index}, ix.Numbered →
      (descs.foldl (Index.upsertRow now verified) ix).Numbered
  | [], _, h => h
  | _ :: descs, _, h => Numbered.foldl_upsertRow descs h.upsertRow

/-- Upserting descriptors one after another, when descriptors of one zone carry one hash: every
zone of the descriptors ends with pending rows, and the rows of other zones are what they were. -/
theorem foldl_upsertRow_rows :
    ∀ (descs : List Descriptor) (ix : Index),
      (∀ d ∈ descs, ∀ d' ∈ descs, d'.service = d.service → d'.zone = d.zone →
        d'.contentHash = d.contentHash) →
      (∀ r, (∀ d ∈ descs, ¬ (r.service = d.service ∧ r.zone = d.zone)) →
        (r ∈ (descs.foldl (upsertRow now verified) ix).services ↔ r ∈ ix.services)) ∧
      ∀ d ∈ descs, PendingRows (descs.foldl (upsertRow now verified) ix).services d
  | [], _, _ => ⟨fun _ _ => Iff.rfl, nofun⟩
  | d :: descs, ix, hagree => by
    obtain ⟨other, pending⟩ := foldl_upsertRow_rows descs (ix.upsertRow now verified d)
      fun a ha b hb => hagree a (List.mem_cons_of_mem _ ha) b (List.mem_cons_of_mem _ hb)
    rw [List.foldl_cons]
    refine ⟨fun r hr => ?_, fun d' hd' => ?_⟩
    · rw [other r fun a ha => hr a (List.mem_cons_of_mem _ ha)]
      exact mem_upsertRow_of_other (hr d List.mem_cons_self)
    rcases List.mem_cons.1 hd' with rfl | hd'
    · -- a later descriptor of the same zone carries the same hash; otherwise the zone's rows
      -- are the ones this upsert left
      by_cases later : ∃ a ∈ descs, a.service = d'.service ∧ a.zone = d'.zone
      · obtain ⟨a, ha, hs, hz⟩ := later
        exact (pending a ha).congr hs hz (hagree d' List.mem_cons_self a (List.mem_cons_of_mem _ ha) hs hz)
      · refine upsertRow_pending.of_zone fun r hs hz => other r fun a ha same => later ?_
        exact ⟨a, ha, same.1.symm.trans hs, same.2.symm.trans hz⟩
    · exact pending d' hd'

theorem upsert_ok {descs : List Descriptor} (hopen : ix.Answers (.upsertOf verified)) :
    ix.upsert descs verified =
      .ok (if descs.isEmpty then ix
        else descs.foldl (upsertRow (ix.clock + 1) verified) { ix with clock := ix.clock + 1 }) := by
  unfold upsert
  cases descs with
  | nil => rfl
  | cons d descs => simp [ensureAnswers_pos hopen, tick, bind, Except.bind, pure, Except.pure]

theorem upsert_health {descs : List Descriptor} (h : ix.upsert descs verified = .ok ix') :
    ix'.closed = ix.closed ∧ ix'.faults = ix.faults := by
  unfold upsert at h
  split at h
  · cases h
    exact ⟨rfl, rfl⟩
  · cases Except.ok.inj (answers_of_ensureAnswers_bind h).2
    exact ⟨foldl_upsertRow_closed _ _, foldl_upsertRow_faults _ _⟩

/-! ## Marking verified, soft-deleting, paging -/

/-- Rows a descriptor matches: its zone and hash, and active. -/
def Verified (descs : List Descriptor) (rows : List ServiceRow) : Prop :=
  ∀ r ∈ rows, ∀ d ∈ descs, r.service = d.service → r.zone = d.zone →
    r.contentHash = d.contentHash → r.status = .active → r.verified = true

theorem Verified.advances {descs : List Descriptor} (h : Verified descs ix.services)
    (adv : ix.Advances ix') : Verified descs ix'.services := by
  intro r' hr' d hd hs hz hh active
  obtain ⟨r, hr, -, s, z, st⟩ := adv.mem hr'
  rcases st with del | ⟨st, hh', hv⟩
  · rw [active] at del
    cases del
  exact hv (h r hr d hd (s ▸ hs) (z ▸ hz) (hh' ▸ hh) (st ▸ active))

/-- Changes in place, one per descriptor, each verifying the rows its descriptor matches. -/
theorem foldl_verifies {f : Index → Descriptor → Index}
    (step : ∀ ix d, ix.Advances (f ix d) ∧ Verified [d] (f ix d).services) :
    ∀ (descs : List Descriptor) (ix : Index),
      ix.Advances (descs.foldl f ix) ∧ Verified descs (descs.foldl f ix).services
  | [], ix => ⟨.refl ix, nofun⟩
  | d :: descs, ix => by
    obtain ⟨first, mine⟩ := step ix d
    obtain ⟨rest, theirs⟩ := foldl_verifies step descs (f ix d)
    refine ⟨first.trans rest, fun r hr d' hd' => ?_⟩
    rcases List.mem_cons.1 hd' with rfl | hd'
    · exact mine.advances rest r hr d' List.mem_cons_self
    · exact theirs r hr d' hd'

/-- Marking rows verified changes them in place, and verifies each active row with the zone and
hash of one of the descriptors. -/
theorem markVerified_advances {descs : List Descriptor} (h : ix.markVerified descs = .ok ix') :
    ix.Advances ix' ∧ Verified descs ix'.services := by
  unfold markVerified at h
  split at h
  · rename_i empty
    cases h
    rw [List.isEmpty_iff.1 empty]
    exact ⟨.refl ix, nofun⟩
  replace h := (answers_of_ensureAnswers_bind h).2
  simp only [pure, Except.pure, Except.ok.injEq] at h
  subst h
  refine foldl_verifies (fun ix d => ⟨advances_of_map fun r => ?_, ?_⟩) descs ix
  · split
    · exact ⟨rfl, rfl, rfl, .inr ⟨rfl, rfl, fun _ => rfl⟩⟩
    · exact RowAdvances.refl r
  · -- a row the descriptor matches was matched before the change, so the change verified it
    intro r' hr' d' hd' hs hz hh active
    obtain rfl := List.mem_singleton.1 hd'
    obtain ⟨r, -, rfl⟩ := List.mem_map.1 hr'
    split
    · rfl
    · rename_i miss
      rw [if_neg miss] at hs hz hh active
      simp [hs, hz, hh, active] at miss

theorem markVerified_ok {descs : List Descriptor} (hopen : ix.Answers .markVerified) :
    ∃ ix', ix.markVerified descs = .ok ix' := by
  unfold markVerified
  split
  · exact ⟨ix, rfl⟩
  · simp [ensureAnswers_pos hopen, bind, Except.bind, pure, Except.pure]

theorem answers_of_markVerified {descs : List Descriptor} (hne : descs ≠ [])
    (h : ix.markVerified descs = .ok ix') : ix.Answers .markVerified := by
  unfold markVerified at h
  rw [if_neg (by simpa using hne)] at h
  exact (answers_of_ensureAnswers_bind h).1

/-- Soft-deleting changes rows in place, deleting some. -/
theorem softDelete_advances {service : String} {zone : Option String} {n : Nat}
    (h : ix.softDelete service zone = .ok (n, ix')) : ix.Advances ix' := by
  unfold softDelete at h
  replace h := (answers_of_ensureAnswers_bind h).2
  simp only [pure, Except.pure, Except.ok.injEq, Prod.mk.injEq] at h
  obtain ⟨-, rfl⟩ := h
  refine ⟨⟨_, fun r => ?_, rfl⟩, rfl, rfl, rfl⟩
  split
  · exact ⟨rfl, rfl, rfl, .inl rfl⟩
  · exact RowAdvances.refl r

theorem pageAfter_eq (hopen : ix.Answers .pageAfter) (after limit : Int) :
    ix.pageAfter after limit = .ok (if limit < 0 then ix.services.filter (·.id > after)
      else (ix.services.filter (·.id > after)).take limit.toNat) := by
  simp [pageAfter, ensureAnswers_pos hopen, bind, Except.bind, pure, Except.pure]

end Index

end ControlPlane
