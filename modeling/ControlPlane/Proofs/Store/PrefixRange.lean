import ControlPlane.Proofs.Store.Keys

/-!
# Prefix ranges

A read of every key that starts with a text `p` is a range read from `p` up to `prefixEnd p`.
The range holds exactly the keys that start with `p`: a key starts with `p` iff `p ≤ k` and,
unless `p` has no end, `k < prefixEnd p` (`isPrefix_iff_inPrefixRange`). The proof follows `p`
from its first character, with the end read forwards (`prefixEndChars_cons`): the end of `c :: x`
is `c` followed by the end of `x`, or, when `x` has none, the successor of `c` alone.

1. `Char.succ?_spec`, `Char.succ?_none`: the successor is the least character above.
2. `prefixEndChars`, `prefixEndChars_cons`: the end, as characters, read forwards.
3. `isPrefix_iff_inPrefixRange`, `Store.range_startingWith`: the range of a prefix read.
-/

namespace ControlPlane

theorem Char.toNat_valid (c : Char) :
    c.toNat < 0xD800 ∨ (0xDFFF < c.toNat ∧ c.toNat < 0x110000) :=
  c.valid

theorem Char.toNat_ofNat_of_valid {n : Nat} (h : n < 0xD800 ∨ (0xDFFF < n ∧ n < 0x110000)) :
    (Char.ofNat n).toNat = n := by
  have hv : n.isValidChar := h
  show (dite n.isValidChar (fun h => Char.ofNatAux n h) _).toNat = n
  rw [dif_pos hv]
  rfl

/-- The successor of a character is above it, and no character lies between. -/
theorem Char.succ?_spec {c d : Char} (h : Char.succ? c = some d) :
    c < d ∧ ∀ e : Char, c < e → d ≤ e := by
  have hc := Char.toNat_valid c
  unfold Char.succ? at h
  split at h
  · -- past U+D7FF come the surrogates, which are no characters
    rename_i hd
    cases h
    have hd' : (Char.ofNat 0xE000).toNat = 0xE000 := Char.toNat_ofNat_of_valid (by omega)
    refine ⟨?_, fun e he => ?_⟩
    · show c.toNat < (Char.ofNat 0xE000).toNat
      omega
    have := Char.toNat_valid e
    change c.toNat < e.toNat at he
    show (Char.ofNat 0xE000).toNat ≤ e.toNat
    omega
  · split at h
    · rename_i hd hle
      cases h
      have hd' : (Char.ofNat (c.toNat + 1)).toNat = c.toNat + 1 :=
        Char.toNat_ofNat_of_valid (by omega)
      refine ⟨?_, fun e he => ?_⟩
      · show c.toNat < (Char.ofNat (c.toNat + 1)).toNat
        omega
      change c.toNat < e.toNat at he
      show (Char.ofNat (c.toNat + 1)).toNat ≤ e.toNat
      omega
    · cases h

/-- A character without a successor is the greatest one. -/
theorem Char.succ?_none {c : Char} (h : Char.succ? c = none) (e : Char) : ¬ c < e := by
  have hc := Char.toNat_valid c
  have he := Char.toNat_valid e
  unfold Char.succ? at h
  split at h
  · cases h
  · split at h
    · cases h
    · intro hlt
      change c.toNat < e.toNat at hlt
      omega

/-! ## The end of a prefix, read forwards -/

/-- The characters of the end of a prefix range, or none when no character has a
successor. -/
def prefixEndChars (p : List Char) : Option (List Char) := (prefixEndRev p.reverse).map List.reverse

theorem prefixEndRev_append (a : Char) :
    ∀ r : List Char, prefixEndRev (r ++ [a]) = match prefixEndRev r with
      | some cs => some (cs ++ [a])
      | none => (Char.succ? a).map ([·])
  | [] => by
    simp only [List.nil_append, prefixEndRev]
    cases Char.succ? a <;> rfl
  | c :: r => by
    simp only [List.cons_append, prefixEndRev]
    cases Char.succ? c with
    | some d => rfl
    | none => exact prefixEndRev_append a r

/-- The end of `a :: x` keeps `a` in front of the end of `x`; when `x` has none, it is the
successor of `a`. -/
theorem prefixEndChars_cons (a : Char) (x : List Char) :
    prefixEndChars (a :: x) = match prefixEndChars x with
      | some e => some (a :: e)
      | none => (Char.succ? a).map ([·]) := by
  simp only [prefixEndChars, List.reverse_cons, prefixEndRev_append]
  cases prefixEndRev x.reverse with
  | some cs => simp
  | none => cases Char.succ? a <;> rfl

/-- A key starts with `p` exactly when it lies in `p`'s range: from `p` on, and before the end
of `p` when there is one. -/
theorem isPrefix_iff_inPrefixRange :
    ∀ (p k : List Char), p <+: k ↔ ¬ k < p ∧ ∀ e, prefixEndChars p = some e → k < e
  | [], k => by
    simp [List.nil_prefix, List.not_lt_nil, prefixEndChars, prefixEndRev]
  | a :: x, [] => by
    simp [List.nil_lt_cons]
  | a :: x, b :: y => by
    have ih := isPrefix_iff_inPrefixRange x y
    rw [List.cons_prefix_cons, prefixEndChars_cons, List.cons_lt_cons_iff]
    cases hx : prefixEndChars x with
    | some e' =>
      -- the end of `x` decides: `k` must agree with `a` and stay below `a :: e'`
      rw [hx] at ih
      simp only [Option.some.injEq, forall_eq', List.cons_lt_cons_iff, not_or, not_and]
      constructor
      · rintro ⟨rfl, hpre⟩
        have := ih.1 hpre
        exact ⟨⟨Char.lt_irrefl a, fun _ => this.1⟩, .inr ⟨rfl, this.2 e' rfl⟩⟩
      · rintro ⟨⟨hba, hyx⟩, hend⟩
        rcases hend with hlt | ⟨rfl, hye⟩
        · exact absurd hlt hba
        · exact ⟨rfl, ih.2 ⟨hyx rfl, fun e he => by cases he; exact hye⟩⟩
    | none =>
      rw [hx] at ih
      simp only [reduceCtorEq, false_implies, implies_true, and_true] at ih
      cases hs : Char.succ? a with
      | some d =>
        -- only `a` itself lies between `a` and its successor
        obtain ⟨had, least⟩ := Char.succ?_spec hs
        simp only [Option.map_some, Option.some.injEq, forall_eq', List.cons_lt_cons_iff,
          List.not_lt_nil, and_false, or_false, not_or, not_and]
        constructor
        · rintro ⟨rfl, hpre⟩
          exact ⟨⟨Char.lt_irrefl a, fun _ => ih.1 hpre⟩, had⟩
        · rintro ⟨⟨hba, hyx⟩, hbd⟩
          have hab : b = a := by
            refine Char.le_antisymm (Char.not_lt.1 fun hab => ?_) (Char.not_lt.1 hba)
            exact absurd (least b hab) (Char.not_le.2 hbd)
          subst hab
          exact ⟨rfl, ih.2 (hyx rfl)⟩
      | none =>
        -- `a` is the greatest character: nothing above it starts differently
        simp only [Option.map_none, reduceCtorEq, false_implies, implies_true, and_true, not_or,
          not_and]
        constructor
        · rintro ⟨rfl, hpre⟩
          exact ⟨Char.lt_irrefl a, fun _ => ih.1 hpre⟩
        · rintro ⟨hba, hyx⟩
          have hab : b = a :=
            Char.le_antisymm (Char.not_lt.1 (Char.succ?_none hs b)) (Char.not_lt.1 hba)
          subst hab
          exact ⟨rfl, ih.2 (hyx rfl)⟩

/-! ## The range read of a prefix -/

theorem prefixEnd_eq (p : String) : prefixEnd p = match prefixEndChars p.toList with
    | some e => String.ofList e
    | none => "\x00" := by
  unfold prefixEnd prefixEndChars
  cases prefixEndRev p.toList.reverse <;> rfl

/-- The end of a prefix, when there is one, is above the prefix and is not the text `"\x00"`
that stands for the end of the keyspace. -/
theorem prefixEndChars_above {p e : List Char} (h : prefixEndChars p = some e) :
    p < e ∧ e ≠ ['\x00'] := by
  have above : p < e := ((isPrefix_iff_inPrefixRange p p).1 (List.prefix_refl p)).2 e h
  refine ⟨above, fun he => ?_⟩
  subst he
  -- nothing is below the least character, so `p` would be empty, and the empty text has no end
  cases p with
  | nil => simp [prefixEndChars, prefixEndRev] at h
  | cons a x =>
    rw [List.cons_lt_cons_iff] at above
    rcases above with hlt | ⟨-, hlt⟩
    · exact Nat.not_lt_zero _ hlt
    · exact List.not_lt_nil _ hlt

namespace Store

/-- A read of the keys starting with `p` gives exactly the entries whose key starts with `p`,
in the store's order. -/
theorem range_startingWith (s : Store) (p : String) :
    (s.range (RangeRequest.startingWith p)).kvs =
      s.entries.filter fun kv => p.toList.isPrefixOf kv.key.toList := by
  have inRange := fun k : String => isPrefix_iff_inPrefixRange p.toList k.toList
  -- no sort, no limit, values kept: the read is the filter of the range bounds
  dsimp only [range, RangeRequest.startingWith]
  simp only [gt_iff_lt, Nat.lt_irrefl, decide_false, Bool.false_and, Bool.false_eq_true,
    if_false]
  rw [prefixEnd_eq]
  cases hend : prefixEndChars p.toList with
  | none =>
    simp only [hend, reduceCtorEq, false_implies, implies_true, and_true] at inRange
    simp only [beq_self_eq_true, if_true]
    apply List.filter_congr
    intro kv _
    rw [Bool.eq_iff_iff, List.isPrefixOf_iff_prefix, inRange]
    simp only [decide_eq_true_eq]
    exact Iff.rfl
  | some e =>
    obtain ⟨above, notNul⟩ := prefixEndChars_above hend
    simp only [hend, Option.some.injEq, forall_eq'] at inRange
    have ne : (String.ofList e == "\x00") = false := by
      rw [beq_eq_false_iff_ne]
      intro heq
      exact notNul (by simpa using congrArg String.toList heq)
    have notBelow : ¬ String.ofList e ≤ p := fun hle =>
      hle (show p.toList < (String.ofList e).toList by rw [String.toList_ofList]; exact above)
    simp only [ne, Bool.false_eq_true, if_false, notBelow]
    apply List.filter_congr
    intro kv _
    rw [Bool.eq_iff_iff, List.isPrefixOf_iff_prefix, inRange, Bool.and_eq_true]
    simp only [decide_eq_true_eq]
    refine and_congr Iff.rfl ?_
    show kv.key.toList < (String.ofList e).toList ↔ _
    rw [String.toList_ofList]

theorem mem_range_startingWith {s : Store} {p k : String} (hk : p.toList <+: k.toList)
    (held : (s.held k).isSome) : ∃ kv ∈ (s.range (RangeRequest.startingWith p)).kvs, kv.key = k := by
  obtain ⟨kv, hkv⟩ := Option.isSome_iff_exists.1 (Option.isSome_map.symm.trans held)
  obtain ⟨rfl, hmem⟩ := find?_key hkv
  rw [range_startingWith]
  exact ⟨kv, List.mem_filter.2 ⟨hmem, List.isPrefixOf_iff_prefix.2 hk⟩, rfl⟩

end Store

end ControlPlane
