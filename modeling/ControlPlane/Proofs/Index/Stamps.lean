import ControlPlane.Proofs.Index.Rows

/-!
# The rows a plug leaves, and upserting them again

Row by row, an upsert of a descriptor rewrites the rows of its zone (`upsertedRow`) and marking
verified sets their flag (`markedRow`). Of what the upsert writes, the kind, interface and
description are the descriptor's own whatever the row held: across a list of descriptors the
last of each zone wins. Rows that already carry those fields are `Stamped`; every upsert of the
list leaves them so, and so does marking (`Stamped.foldl_upsertRow`, `Stamped.markVerified`).

A zone whose rows are all active, verified and under the descriptors' hash is settled
(`ZoneSettled`). Upserting the same descriptors into stamped, settled rows, and marking them,
changes no row: only the clock and the row counter move (`upsert_stamped`,
`markVerified_settled`).
-/

namespace ControlPlane

namespace Index

/-- Two folds whose steps commute commute. -/
theorem foldl_foldl_comm {α β γ : Type} {f : γ → α → γ} {g : γ → β → γ}
    (h : ∀ x a b, f (g x b) a = g (f x a) b) :
    ∀ (as : List α) (bs : List β) (x : γ), as.foldl f (bs.foldl g x) = bs.foldl g (as.foldl f x) := by
  -- one step of `g` passes through the whole fold of `f`
  have one : ∀ (as : List α) (x : γ) (b : β), as.foldl f (g x b) = g (as.foldl f x) b := by
    intro as
    induction as with
    | nil => intro x b; rfl
    | cons a as ih => intro x b; rw [List.foldl_cons, List.foldl_cons, h, ih]
  intro as bs
  induction bs with
  | nil => intro x; rfl
  | cons b bs ih => intro x; rw [List.foldl_cons, List.foldl_cons, ih, one]

/-! ## Rows -/

/-- The kind, interface and description of a descriptor, written on a row of its zone. -/
def stampRow (d : Descriptor) (r : ServiceRow) : ServiceRow :=
  if r.service == d.service && r.zone == d.zone then
    { r with kind := d.kind, proto := d.proto, description := d.description }
  else r

/-- The stamps of descriptors written one after another. -/
def stampRows (ds : List Descriptor) (r : ServiceRow) : ServiceRow :=
  ds.foldl (fun r d => stampRow d r) r

/-- What an upsert of a descriptor does to a row. -/
def upsertedRow (now : Nat) (verified : Bool) (d : Descriptor) (r : ServiceRow) : ServiceRow :=
  if r.service == d.service && r.zone == d.zone then
    let unchanged := r.status == .active && r.contentHash == d.contentHash
    { r with
      verified := if unchanged then r.verified || verified else verified,
      modifyTime := if unchanged then r.modifyTime else now,
      status := .active, kind := d.kind, proto := d.proto, description := d.description,
      contentHash := d.contentHash }
  else r

/-- Upserts of descriptors one after another, on one row. -/
def upsertedRows (now : Nat) (verified : Bool) (ds : List Descriptor) (r : ServiceRow) :
    ServiceRow :=
  ds.foldl (fun r d => upsertedRow now verified d r) r

/-- What marking a descriptor verified does to a row. -/
def markedRow (d : Descriptor) (r : ServiceRow) : ServiceRow :=
  if r.service == d.service && r.zone == d.zone && r.contentHash == d.contentHash &&
      r.status == .active then { r with verified := true } else r

/-- Markings of descriptors one after another, on one row. -/
def markedRows (ds : List Descriptor) (r : ServiceRow) : ServiceRow :=
  ds.foldl (fun r d => markedRow d r) r

/-- Every row carries the stamps of `ds`: stamping it again changes nothing. -/
def Stamped (ds : List Descriptor) (rows : List ServiceRow) : Prop :=
  ∀ r ∈ rows, stampRows ds r = r

/-- The zone of `d` has rows, and each is active, verified and under the hash of `d`. -/
def ZoneSettled (rows : List ServiceRow) (d : Descriptor) : Prop :=
  (∃ r ∈ rows, r.service = d.service ∧ r.zone = d.zone) ∧
    ∀ r ∈ rows, r.service = d.service → r.zone = d.zone →
      r.status = .active ∧ r.verified = true ∧ r.contentHash = d.contentHash

variable {r : ServiceRow} {d d' : Descriptor} {ds : List Descriptor} {now : Nat}
  {verified : Bool}

@[simp] theorem stampRow_service : (stampRow d r).service = r.service := by
  unfold stampRow; split <;> rfl

@[simp] theorem stampRow_zone : (stampRow d r).zone = r.zone := by
  unfold stampRow; split <;> rfl

@[simp] theorem stampRow_status : (stampRow d r).status = r.status := by
  unfold stampRow; split <;> rfl

@[simp] theorem stampRow_verified : (stampRow d r).verified = r.verified := by
  unfold stampRow; split <;> rfl

@[simp] theorem stampRow_contentHash : (stampRow d r).contentHash = r.contentHash := by
  unfold stampRow; split <;> rfl

@[simp] theorem upsertedRow_service : (upsertedRow now verified d r).service = r.service := by
  unfold upsertedRow; split <;> rfl

@[simp] theorem upsertedRow_zone : (upsertedRow now verified d r).zone = r.zone := by
  unfold upsertedRow; split <;> rfl

@[simp] theorem markedRow_service : (markedRow d r).service = r.service := by
  unfold markedRow; split <;> rfl

@[simp] theorem markedRow_zone : (markedRow d r).zone = r.zone := by
  unfold markedRow; split <;> rfl

@[simp] theorem markedRow_status : (markedRow d r).status = r.status := by
  unfold markedRow; split <;> rfl

@[simp] theorem markedRow_contentHash : (markedRow d r).contentHash = r.contentHash := by
  unfold markedRow; split <;> rfl

theorem stampRows_append_singleton : stampRows (ds ++ [d]) r = stampRow d (stampRows ds r) := by
  simp only [stampRows, List.foldl_append, List.foldl_cons, List.foldl_nil]

theorem stampRow_of_hit (h : (r.service == d.service && r.zone == d.zone) = true) :
    stampRow d r = { r with kind := d.kind, proto := d.proto, description := d.description } :=
  if_pos h

theorem stampRow_of_other (h : (r.service == d.service && r.zone == d.zone) = false) :
    stampRow d r = r := by
  rw [stampRow, if_neg (by simp [h])]

theorem stampRow_stampRow (h : (r.service == d.service && r.zone == d.zone) = true) :
    stampRow d (stampRow d' r) = stampRow d r := by
  have h' : ((stampRow d' r).service == d.service && (stampRow d' r).zone == d.zone) = true := by
    rw [stampRow_service, stampRow_zone]
    exact h
  rw [stampRow_of_hit h', stampRow_of_hit h]
  unfold stampRow
  split <;> rfl

theorem stampRow_stampRows (h : (r.service == d.service && r.zone == d.zone) = true) :
    ∀ ds, stampRow d (stampRows ds r) = stampRow d r := by
  intro ds
  induction ds generalizing r with
  | nil => rfl
  | cons d' ds ih =>
    have h' : ((stampRow d' r).service == d.service && (stampRow d' r).zone == d.zone) = true := by
      rw [stampRow_service, stampRow_zone]
      exact h
    simp only [stampRows, List.foldl_cons] at ih ⊢
    rw [ih h', stampRow_stampRow h]

theorem stampRow_upsertedRow : stampRow d (upsertedRow now verified d r) = upsertedRow now verified d r := by
  unfold upsertedRow
  split
  · rename_i h
    rw [stampRow, if_pos (by simpa using h)]
  · rename_i h
    rw [stampRow, if_neg h]

theorem upsertedRow_of_other (h : (r.service == d.service && r.zone == d.zone) = false) :
    upsertedRow now verified d r = r := by
  rw [upsertedRow, if_neg (by simp [h])]

theorem stampRow_markedRow : stampRow d (markedRow d' r) = markedRow d' (stampRow d r) := by
  unfold markedRow
  rw [stampRow_service, stampRow_zone, stampRow_contentHash, stampRow_status]
  split
  · unfold stampRow
    split <;> rfl
  · rfl

/-! ## The index -/

variable {ix ix' : Index}

/-- An upsert into a zone that has rows rewrites them in place. -/
theorem upsertRow_present (h : ∃ r ∈ ix.services, r.service = d.service ∧ r.zone = d.zone) :
    ix.upsertRow now verified d =
      { ix with nextServiceId := ix.nextServiceId + 1,
                services := ix.services.map (upsertedRow now verified d) } := by
  obtain ⟨r, hr, hs, hz⟩ := h
  have present : (ix.services.any fun r => r.service == d.service && r.zone == d.zone) = true :=
    List.any_eq_true.2 ⟨r, hr, by simp [hs, hz]⟩
  unfold upsertRow
  dsimp only
  rw [if_pos present]
  rfl

/-- Upserts into zones that all have rows rewrite the rows in place, one after another. -/
theorem foldl_upsertRow_present :
    ∀ (ds : List Descriptor) (ix : Index),
      (∀ d ∈ ds, ∃ r ∈ ix.services, r.service = d.service ∧ r.zone = d.zone) →
      ds.foldl (upsertRow now verified) ix =
        { ix with nextServiceId := ix.nextServiceId + ds.length,
                  services := ix.services.map (upsertedRows now verified ds) }
  | [], ix, _ => by
    have same : ix.services.map (upsertedRows now verified []) = ix.services := List.map_id _
    rw [List.foldl_nil, same]
    simp
  | d :: ds, ix, h => by
    rw [List.foldl_cons, upsertRow_present (h d List.mem_cons_self)]
    -- the rewritten rows keep their zones, so every later zone still has rows
    rw [foldl_upsertRow_present ds _ fun d' hd' => ?_]
    · simp only [List.map_map, List.length_cons]
      congr 1
      · omega
    · obtain ⟨r, hr, hs, hz⟩ := h d' (List.mem_cons_of_mem _ hd')
      exact ⟨_, List.mem_map_of_mem hr, by rw [upsertedRow_service, hs],
        by rw [upsertedRow_zone, hz]⟩

/-- An upsert into a zone without rows appends one, with the descriptor's fields. -/
theorem upsertRow_absent (h : ∀ r ∈ ix.services, ¬ (r.service = d.service ∧ r.zone = d.zone)) :
    (ix.upsertRow now verified d).services = ix.services ++
      [{ id := ix.nextServiceId, service := d.service, zone := d.zone, kind := d.kind,
         proto := d.proto, description := d.description, contentHash := d.contentHash,
         status := .active, verified, modifyTime := now }] := by
  have absent : ¬ (ix.services.any fun r => r.service == d.service && r.zone == d.zone) = true :=
    fun hany => by
      obtain ⟨r, hr, hit⟩ := List.any_eq_true.1 hany
      exact h r hr (by simpa using hit)
  unfold upsertRow
  dsimp only
  rw [if_neg absent]

/-- Every upsert of `d` leaves the rows stamped by the descriptors before it and `d`. -/
theorem Stamped.upsertRow (h : Stamped ds ix.services) :
    Stamped (ds ++ [d]) (ix.upsertRow now verified d).services := by
  -- a row of another zone keeps its stamps; a row of `d`'s zone has `d`'s, which overwrite
  have other : ∀ r ∈ ix.services, (r.service == d.service && r.zone == d.zone) = false →
      stampRows (ds ++ [d]) r = r := by
    intro r hr miss
    rw [stampRows_append_singleton, h r hr, stampRow_of_other miss]
  by_cases present : ∃ r ∈ ix.services, r.service = d.service ∧ r.zone = d.zone
  · rw [upsertRow_present present]
    intro r' hr'
    obtain ⟨r, hr, rfl⟩ := List.mem_map.1 hr'
    cases hit : (r.service == d.service && r.zone == d.zone) with
    | false =>
      rw [upsertedRow_of_other hit]
      exact other r hr hit
    | true =>
      have hit' : ((upsertedRow now verified d r).service == d.service &&
          (upsertedRow now verified d r).zone == d.zone) = true := by
        rw [upsertedRow_service, upsertedRow_zone]
        exact hit
      rw [stampRows_append_singleton, stampRow_stampRows hit', stampRow_upsertedRow]
  · rw [upsertRow_absent fun r hr hit => present ⟨r, hr, hit⟩]
    intro r' hr'
    rcases List.mem_append.1 hr' with hr' | hr'
    · exact other r' hr' (Bool.eq_false_iff.2 fun hit => present ⟨r', hr', by simpa using hit⟩)
    · rw [List.mem_singleton.1 hr', stampRows_append_singleton, stampRow_stampRows (by simp),
        stampRow_of_hit (by simp)]

theorem Stamped.foldl_upsertRow :
    ∀ (ds' : List Descriptor) {ds : List Descriptor} {ix : Index}, Stamped ds ix.services →
      Stamped (ds ++ ds') (ds'.foldl (Index.upsertRow now verified) ix).services
  | [], ds, _, h => by rw [List.append_nil]; exact h
  | d :: ds', ds, _, h => by
    rw [List.foldl_cons, ← List.singleton_append, ← List.append_assoc]
    exact Stamped.foldl_upsertRow ds' h.upsertRow

theorem stamped_nil (rows : List ServiceRow) : Stamped [] rows := fun _ _ => rfl

/-- Marking is the marking of each row. -/
theorem markVerified_map (hopen : ix.Answers .markVerified) :
    ix.markVerified ds = .ok { ix with services := ix.services.map (markedRows ds) } := by
  -- each marking maps the rows, and the maps compose
  have fold : ∀ (ds : List Descriptor) (ix : Index),
      ds.foldl (fun ix d => { ix with services := ix.services.map fun r =>
        if r.service == d.service && r.zone == d.zone && r.contentHash == d.contentHash &&
          r.status == .active then { r with verified := true } else r }) ix =
      { ix with services := ix.services.map (markedRows ds) } := by
    intro ds
    induction ds with
    | nil =>
      intro ix
      have same : ix.services.map (markedRows []) = ix.services := List.map_id _
      rw [List.foldl_nil, same]
    | cons d ds ih =>
      intro ix
      rw [List.foldl_cons, ih]
      simp only [List.map_map]
      rfl
  unfold markVerified
  cases hds : ds.isEmpty with
  | true =>
    rw [List.isEmpty_iff.1 hds]
    have same : ix.services.map (markedRows []) = ix.services := List.map_id _
    rw [same]
    rfl
  | false =>
    rw [if_neg (by simp), ensureAnswers_pos hopen]
    exact congrArg Except.ok (fold ds ix)

/-- A marking that answers marks each row, whether it found rows to mark or not. -/
theorem markVerified_rows (hm : ix.markVerified ds = .ok ix') :
    ix'.services = ix.services.map (markedRows ds) := by
  cases ds with
  | nil =>
    cases hm
    exact (List.map_id _).symm
  | cons d ds =>
    by_cases hc : ix.Answers .markVerified
    · rw [markVerified_map hc] at hm
      cases hm
      rfl
    · unfold Index.markVerified at hm
      simp [ensureAnswers_neg hc, bind, Except.bind] at hm

/-- Marking keeps each row's service, zone, status and hash. -/
theorem markedRows_keeps :
    (markedRows ds r).service = r.service ∧ (markedRows ds r).zone = r.zone ∧
      (markedRows ds r).status = r.status ∧ (markedRows ds r).contentHash = r.contentHash := by
  induction ds generalizing r with
  | nil => exact ⟨rfl, rfl, rfl, rfl⟩
  | cons d ds ih =>
    obtain ⟨hs, hz, hst, hh⟩ := ih (r := markedRow d r)
    simp only [markedRows, List.foldl_cons] at hs hz hst hh ⊢
    rw [hs, hz, hst, hh, markedRow_service, markedRow_zone, markedRow_status,
      markedRow_contentHash]
    exact ⟨rfl, rfl, rfl, rfl⟩

theorem Stamped.markVerified {ds' : List Descriptor} (h : Stamped ds ix.services)
    (hm : ix.markVerified ds' = .ok ix') : Stamped ds ix'.services := by
  intro r' hr'
  rw [markVerified_rows hm] at hr'
  obtain ⟨r, hr, rfl⟩ := List.mem_map.1 hr'
  unfold stampRows markedRows
  rw [foldl_foldl_comm (fun x a b => @stampRow_markedRow x a b)]
  exact congrArg (fun x => List.foldl (fun r d => markedRow d r) x ds') (h r hr)

/-! ## Settled zones -/

/-- Pending rows of a descriptor end settled by its marking. -/
theorem PendingRows.settled (h : PendingRows ix.services d) (hd : d ∈ ds)
    (hm : ix.markVerified ds = .ok ix') : ZoneSettled ix'.services d := by
  have verified := (markVerified_advances hm).2
  have rows := markVerified_rows hm
  obtain ⟨⟨r, hr, hs, hz⟩, pending⟩ := h
  obtain ⟨ks, kz, -, -⟩ := @markedRows_keeps r ds
  refine ⟨⟨markedRows ds r, rows ▸ List.mem_map_of_mem hr, ks.trans hs, kz.trans hz⟩,
    fun r' hr' hs' hz' => ?_⟩
  -- a row of the zone after the marking is the marking of a pending row of the zone
  have marked := hr'
  rw [rows] at marked
  obtain ⟨r₀, hr₀, rfl⟩ := List.mem_map.1 marked
  obtain ⟨ks₀, kz₀, kst₀, kh₀⟩ := @markedRows_keeps r₀ ds
  obtain ⟨active, hash⟩ := pending r₀ hr₀ (ks₀ ▸ hs') (kz₀ ▸ hz')
  exact ⟨kst₀.trans active, verified _ hr' d hd hs' hz' (kh₀.trans hash) (kst₀.trans active),
    kh₀.trans hash⟩

/-- Upserting into a row whose zone, for every descriptor of it, is active, verified and under
its hash only stamps the row. -/
theorem upsertedRows_settled (h : ∀ d ∈ ds, r.service = d.service → r.zone = d.zone →
      r.status = .active ∧ r.verified = true ∧ r.contentHash = d.contentHash) :
    upsertedRows now false ds r = stampRows ds r := by
  induction ds generalizing r with
  | nil => rfl
  | cons d ds ih =>
    simp only [upsertedRows, stampRows, List.foldl_cons] at ih ⊢
    have step : upsertedRow now false d r = stampRow d r := by
      cases hit : (r.service == d.service && r.zone == d.zone) with
      | false => rw [upsertedRow_of_other hit, stampRow_of_other hit]
      | true =>
        obtain ⟨hs, hz⟩ : r.service = d.service ∧ r.zone = d.zone := by simpa using hit
        obtain ⟨active, verified, hash⟩ := h d List.mem_cons_self hs hz
        rw [upsertedRow, if_pos (by simpa using hit), stampRow, if_pos (by simpa using hit)]
        simp only [active, hash, verified, beq_self_eq_true, Bool.and_self, if_true,
          Bool.or_false]
    rw [step]
    -- the stamp keeps what the next upserts read
    exact ih fun d' hd' hs hz => by
      rw [stampRow_status, stampRow_verified, stampRow_contentHash]
      exact h d' (List.mem_cons_of_mem _ hd') (by simpa using hs) (by simpa using hz)

/-- Upserting the descriptors again into stamped rows of settled zones changes no row; the
clock and the row counter move. -/
theorem upsert_stamped (hopen : ix.Answers .upsertPending) (hne : ds ≠ [])
    (settled : ∀ d ∈ ds, ZoneSettled ix.services d) (stamped : Stamped ds ix.services) :
    ix.upsert ds false =
      .ok { ix with clock := ix.clock + 1, nextServiceId := ix.nextServiceId + ds.length } := by
  rw [upsert_ok (show ix.Answers (.upsertOf false) from hopen), if_neg (by simpa using hne),
    foldl_upsertRow_present ds { ix with clock := ix.clock + 1 } fun d hd => (settled d hd).1]
  -- each row is only stamped, and carries the stamps already
  have same : ix.services.map (upsertedRows (ix.clock + 1) false ds) = ix.services := by
    conv => rhs; rw [← List.map_id ix.services]
    refine List.map_congr_left fun r hr => ?_
    rw [upsertedRows_settled fun d hd hs hz => (settled d hd).2 r hr hs hz]
    exact stamped r hr
  simp only [same]

/-- Marking the rows of settled zones again changes nothing. -/
theorem markVerified_settled (hopen : ix.Answers .markVerified)
    (settled : ∀ d ∈ ds, ZoneSettled ix.services d) : ix.markVerified ds = .ok ix := by
  rw [markVerified_map hopen]
  -- a row of one of the zones is verified already; another row is not marked
  have unmarked : ∀ r ∈ ix.services, ∀ ds' ⊆ ds, markedRows ds' r = r := by
    intro r hr ds'
    induction ds' with
    | nil => intro _; rfl
    | cons d ds' ih =>
      intro hsub
      have step : markedRow d r = r := by
        unfold markedRow
        split
        · rename_i hit
          have hs : r.service = d.service := by simp_all
          have hz : r.zone = d.zone := by simp_all
          obtain ⟨-, hv, -⟩ := (settled d (hsub List.mem_cons_self)).2 r hr hs hz
          cases r
          simp only at hv
          rw [hv]
        · rfl
      simp only [markedRows, List.foldl_cons] at ih ⊢
      rw [step]
      exact ih (List.subset_of_cons_subset hsub)
  have same : ix.services.map (markedRows ds) = ix.services := by
    conv => rhs; rw [← List.map_id ix.services]
    exact List.map_congr_left fun r hr => unmarked r hr ds (List.Subset.refl ds)
  rw [same]

/-- The row found for a settled zone is active, verified and under the zone's hash. -/
theorem find_settled (hopen : ix.Answers .find) (h : ZoneSettled ix.services d) :
    ∃ r, ix.find d.service d.zone = .ok (some r) ∧ r.status = .active ∧ r.verified = true ∧
      r.contentHash = d.contentHash := by
  obtain ⟨⟨r, hr, hs, hz⟩, rows⟩ := h
  have found : (ix.services.find? fun r => r.service == d.service && r.zone == d.zone).isSome :=
    List.find?_isSome.2 ⟨r, hr, by simp [hs, hz]⟩
  obtain ⟨r', hr'⟩ := Option.isSome_iff_exists.1 found
  obtain ⟨hs', hz'⟩ : r'.service = d.service ∧ r'.zone = d.zone := by
    simpa using List.find?_some hr'
  refine ⟨r', ?_, rows r' (List.mem_of_find?_eq_some hr') hs' hz'⟩
  simp only [find, ensureAnswers_pos hopen, hr', bind, Except.bind, pure, Except.pure]

end Index

end ControlPlane
