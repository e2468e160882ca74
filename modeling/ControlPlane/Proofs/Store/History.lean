import ControlPlane.Proofs.Store.Writes

/-!
# The history of committed batches

Watches that start in the past read the history: the batches of the latest revisions, oldest
first. Two things change it. A commit appends the batch of the next revision and drops the
oldest batches past the limit, moving `firstRetained` past the last one dropped; a compaction
drops every batch before a revision and raises `firstRetained` to it, which may take it past
the current revision.

Through both, the history stays one run of consecutive revisions that ends at the current
revision, every event of a batch carries the batch's revision, and every revision from
`max firstRetained 2` on has its batch (revision 1 is the empty store, which no batch made).

1. `Consecutive`: a list of batches numbered one after another up to a given revision.
2. `Store.Chained`: the history's shape; `Chained.commit` and `Chained.compact` keep it.
3. `Chained.batch_of_revision`: the history holds the batch of every revision a watch may
   start from.
-/

namespace ControlPlane

/-- Batches numbered one after another, the last one `top`. -/
def Consecutive (bs : List Batch) (top : Revision) : Prop :=
  ∀ i (hi : i < bs.length), bs[i].revision = top + 1 - bs.length + i

theorem Consecutive.append {bs : List Batch} {top : Revision} {b : Batch} (h : Consecutive bs top)
    (hb : b.revision = top + 1) : Consecutive (bs ++ [b]) (top + 1) := by
  intro i hi
  have hlen : (bs ++ [b]).length = bs.length + 1 := by simp
  rw [hlen] at hi ⊢
  rcases Nat.lt_succ_iff_lt_or_eq.1 hi with hi | rfl
  · rw [List.getElem_append_left hi, h i hi]
    push_cast
    grind
  · rw [List.getElem_append_right (le_refl _)]
    simp only [Nat.sub_self, List.getElem_cons_zero, hb]
    push_cast
    grind

theorem Consecutive.drop {bs : List Batch} {top : Revision} (h : Consecutive bs top) (n : Nat) :
    Consecutive (bs.drop n) top := by
  intro i hi
  have hlen : (bs.drop n).length = bs.length - n := List.length_drop
  have hin : n + i < bs.length := by omega
  rw [List.getElem_drop, h (n + i) hin, hlen]
  push_cast [Int.ofNat_sub (show n ≤ bs.length by omega)]
  grind

namespace Store

variable {s : Store} {rev : Revision} {evs : List WatchEvent}

/-- The history's shape: consecutive revisions ending at the current one, every revision from
`max firstRetained 2` on present, and each event stamped with its batch's revision. -/
structure Chained (s : Store) : Prop where
  consecutive : Consecutive s.history s.revision
  complete : s.revision + 1 ≤ max s.firstRetained 2 + s.history.length
  stamped : ∀ b ∈ s.history, ∀ ev ∈ b.events, ev.kv.modRevision = b.revision

theorem Chained.congr {t : Store} (h : s.Chained) (hr : t.revision = s.revision)
    (hh : t.history = s.history) (hf : t.firstRetained = s.firstRetained) : t.Chained := by
  obtain ⟨consecutive, complete, stamped⟩ := h
  exact ⟨by rw [hr, hh]; exact consecutive, by rw [hr, hh, hf]; exact complete,
    by rw [hh]; exact stamped⟩

theorem commit_revision : (s.commit rev evs).revision = if evs.isEmpty then s.revision else rev := by
  unfold commit
  split <;> simp_all

/-- Committing the next revision appends its batch and trims the oldest batches: the history
keeps its shape. -/
theorem Chained.commit (h : s.Chained) (hevs : ∀ ev ∈ evs, ev.kv.modRevision = s.revision + 1) :
    (s.commit (s.revision + 1) evs).Chained := by
  unfold Store.commit
  split
  · exact h
  · dsimp only
    set H := s.history ++ [⟨s.revision + 1, evs⟩] with hH
    set excess := H.length - s.historyLimit with hexcess
    have full : Consecutive H (s.revision + 1) := h.consecutive.append rfl
    have hlen : H.length = s.history.length + 1 := by simp [H]
    have hle : excess ≤ H.length := Nat.sub_le _ _
    constructor
    · exact full.drop excess
    · -- the first retained revision is one past the last batch dropped
      have old := h.complete
      rw [List.length_drop]
      rcases Nat.eq_zero_or_pos excess with hzero | hpos
      · rw [hzero, List.take_zero]
        simp only [List.getLast?_nil, Nat.sub_zero]
        rw [hlen]
        push_cast
        grind
      · have hidx : excess - 1 < H.length := by omega
        have hlast : (H.take excess).getLast? = some H[excess - 1] := by
          rw [List.getLast?_take, if_neg (by omega), List.getElem?_eq_getElem hidx]
          rfl
        rw [hlast]
        dsimp only
        have dropped := full (excess - 1) hidx
        rw [dropped]
        push_cast [Int.ofNat_sub hle, Int.ofNat_sub (show 1 ≤ excess by omega)]
        grind
    · intro b hb ev hev
      rcases List.mem_append.1 (List.mem_of_mem_drop hb) with hb | hb
      · exact h.stamped b hb ev hev
      · rw [List.mem_singleton.1 hb] at hev ⊢
        exact hevs ev hev

/-- Compaction drops the batches before a revision: the history keeps its shape. -/
theorem Chained.compact (h : s.Chained) (rev : Revision) : (s.compact rev).Chained := by
  unfold Store.compact
  rw [List.dropWhile_eq_drop_findIdx_not]
  set n := s.history.findIdx fun b => !decide (b.revision < rev) with hn
  have hle : n ≤ s.history.length := List.findIdx_le_length
  constructor
  · exact h.consecutive.drop n
  · have old := h.complete
    dsimp only
    rw [List.length_drop]
    rcases Nat.eq_zero_or_pos n with hzero | hpos
    · rw [hzero]
      grind
    · -- the last batch dropped is older than `rev`, which is now the first retained
      have hidx : n - 1 < s.history.length := by omega
      have older : s.history[n - 1].revision < rev := by
        have := List.not_of_lt_findIdx (p := fun b => !decide (b.revision < rev))
          (show n - 1 < s.history.findIdx _ by omega)
        simpa using this
      rw [h.consecutive (n - 1) hidx] at older
      push_cast [Int.ofNat_sub hle, Int.ofNat_sub (show 1 ≤ n by omega)] at older ⊢
      grind
  · intro b hb ev hev
    exact h.stamped b (List.mem_of_mem_drop hb) ev hev

/-- Every revision from `max firstRetained 2` up to the current one has its batch in the
history. -/
theorem Chained.batch_of_revision (h : s.Chained) {r : Revision} (hlow : max s.firstRetained 2 ≤ r)
    (hhigh : r ≤ s.revision) : ∃ b ∈ s.history, b.revision = r := by
  have complete := h.complete
  -- the batch of `r` stands `r - (revision + 1 - length)` places from the oldest
  obtain ⟨i, hi⟩ : ∃ i : Nat, (i : Int) = r - (s.revision + 1 - s.history.length) :=
    ⟨(r - (s.revision + 1 - s.history.length)).toNat, Int.toNat_of_nonneg (by grind)⟩
  have hlt : i < s.history.length := by grind
  exact ⟨s.history[i], List.getElem_mem hlt, by rw [h.consecutive i hlt]; grind⟩

end Store

end ControlPlane
