import Mathlib.Data.List.TakeWhile
import ControlPlane.Index.Table
import ControlPlane.Index.Ledger

/-!
# Escaped texts in LIKE patterns

The index looks services up by a LIKE pattern: the search text is escaped, so that `%`, `_` and
the backslash in it stand for themselves, and put between two `%`. The configuration list reads
a name prefix the same way, followed by one `%`. Such patterns match literally:

1. `LikeToken.parse_escaped_append`: an escaped text reads back as its own characters, whatever
   pattern follows it.
2. `likeMatches_any_cons`, `likeMatches_chars_append`: `%` takes any stretch of the text, and a
   run of literal characters a stretch equal to it up to ASCII case.
3. `like_searchPattern`, `like_prefixPattern`: the search pattern of `q` matches the texts that
   hold `q`, and the prefix pattern of `p` the texts that start with `p`, up to ASCII case.
4. `Index.search_eq_ok_iff`: a search answers exactly when its bounds are in range and the
   database is open; it counts the active, verified rows whose service the pattern matches, and
   lists one window of them, newest first.

A pattern and a text both end at their first NUL. A search text without a NUL is looked for in
the part of a text before its first NUL; a search text with one is cut there and loses its
closing `%`, so that what is left of it must end that part (`SearchHit`).
-/

namespace ControlPlane

/-! ## Texts up to ASCII case -/

/-- `t` and `q` are the same text up to ASCII case. -/
def EqUpToCase (t q : List Char) : Prop := t.map Char.toLower = q.map Char.toLower

/-- `t` starts with `q`, up to ASCII case. -/
def StartsUpToCase (t q : List Char) : Prop := q.map Char.toLower <+: t.map Char.toLower

/-- `t` ends with `q`, up to ASCII case. -/
def EndsUpToCase (t q : List Char) : Prop := q.map Char.toLower <:+ t.map Char.toLower

/-- `q` stands somewhere in `t`, up to ASCII case. -/
def HoldsUpToCase (t q : List Char) : Prop := q.map Char.toLower <:+: t.map Char.toLower

instance (t q : List Char) : Decidable (EqUpToCase t q) := inferInstanceAs (Decidable (_ = _))
instance (t q : List Char) : Decidable (StartsUpToCase t q) :=
  inferInstanceAs (Decidable (_ <+: _))
instance (t q : List Char) : Decidable (EndsUpToCase t q) := inferInstanceAs (Decidable (_ <:+ _))
instance (t q : List Char) : Decidable (HoldsUpToCase t q) :=
  inferInstanceAs (Decidable (_ <:+: _))

theorem startsUpToCase_iff {t q : List Char} :
    StartsUpToCase t q ↔ ∃ u w, t = u ++ w ∧ EqUpToCase u q := by
  constructor
  · rintro ⟨r, h⟩
    obtain ⟨u, w, rfl, hu, -⟩ := List.map_eq_append_iff.1 h.symm
    exact ⟨u, w, rfl, hu⟩
  · rintro ⟨u, w, rfl, hu⟩
    exact ⟨w.map Char.toLower, by rw [List.map_append, hu]⟩

theorem endsUpToCase_iff {t q : List Char} :
    EndsUpToCase t q ↔ ∃ a u, t = a ++ u ∧ EqUpToCase u q := by
  constructor
  · rintro ⟨r, h⟩
    obtain ⟨a, u, rfl, -, hu⟩ := List.map_eq_append_iff.1 h.symm
    exact ⟨a, u, rfl, hu⟩
  · rintro ⟨a, u, rfl, hu⟩
    exact ⟨a.map Char.toLower, by rw [List.map_append, hu]⟩

theorem holdsUpToCase_iff {t q : List Char} :
    HoldsUpToCase t q ↔ ∃ a u w, t = a ++ (u ++ w) ∧ EqUpToCase u q := by
  constructor
  · rintro ⟨r, r', h⟩
    obtain ⟨a, uw, rfl, -, huw⟩ :=
      List.map_eq_append_iff.1 (h.symm.trans (List.append_assoc _ _ _))
    obtain ⟨u, w, rfl, hu, -⟩ := List.map_eq_append_iff.1 huw
    exact ⟨a, u, w, rfl, hu⟩
  · rintro ⟨a, u, w, rfl, hu⟩
    exact ⟨a.map Char.toLower, w.map Char.toLower,
      by rw [List.map_append, List.map_append, hu, List.append_assoc]⟩

/-! ## Matching -/

@[simp] theorem likeMatches_nil (t : List Char) : likeMatches [] t = true ↔ t = [] := by
  rw [likeMatches, List.isEmpty_iff]

/-- `%` takes any stretch of the text and leaves the rest to the pattern after it. -/
theorem likeMatches_any_cons (p : List LikeToken) (t : List Char) :
    likeMatches (.any :: p) t = true ↔ ∃ u w, t = u ++ w ∧ likeMatches p w = true := by
  induction t with
  | nil => simp [likeMatches, and_assoc]
  | cons x t ih =>
    -- either `%` stops before `x`, or it takes `x` and goes on
    rw [likeMatches, Bool.or_eq_true, ih]
    constructor
    · rintro (h | ⟨u, w, rfl, h⟩)
      · exact ⟨[], x :: t, rfl, h⟩
      · exact ⟨x :: u, w, rfl, h⟩
    · rintro ⟨u, w, h, hw⟩
      cases u with
      | nil => exact .inl (by simpa using h ▸ hw)
      | cons y u =>
        obtain ⟨rfl, rfl⟩ := List.cons_eq_cons.1 h
        exact .inr ⟨u, w, rfl, hw⟩

theorem likeMatches_any (t : List Char) : likeMatches [.any] t = true :=
  (likeMatches_any_cons [] t).2 ⟨t, [], by simp, (likeMatches_nil []).2 rfl⟩

/-- A run of literal characters takes a stretch of the text equal to it up to ASCII case. -/
theorem likeMatches_chars_append (q : List Char) (p : List LikeToken) (t : List Char) :
    likeMatches (q.map .char ++ p) t = true ↔
      ∃ u w, t = u ++ w ∧ EqUpToCase u q ∧ likeMatches p w = true := by
  induction q generalizing t with
  | nil =>
    simp only [List.map_nil, List.nil_append, EqUpToCase, List.map_eq_nil_iff]
    constructor
    · intro h
      exact ⟨[], t, rfl, rfl, h⟩
    · rintro ⟨u, w, rfl, rfl, h⟩
      exact h
  | cons c q ih =>
    cases t with
    | nil => simp [likeMatches, EqUpToCase]
    | cons x t =>
      simp only [List.map_cons, List.cons_append, likeMatches, sameUpToCase, Bool.and_eq_true,
        beq_iff_eq, ih]
      constructor
      · rintro ⟨hc, u, w, rfl, hu, hw⟩
        exact ⟨x :: u, w, rfl, by simpa [EqUpToCase, hc] using hu, hw⟩
      · rintro ⟨u, w, h, hu, hw⟩
        cases u with
        | nil => simp [EqUpToCase] at hu
        | cons y u =>
          obtain ⟨rfl, rfl⟩ := List.cons_eq_cons.1 h
          simp only [EqUpToCase, List.map_cons, List.cons.injEq] at hu
          exact ⟨hu.1.symm, u, w, rfl, hu.2, hw⟩

/-- Literal characters alone match the texts equal to them up to ASCII case. -/
theorem likeMatches_chars (q t : List Char) :
    likeMatches (q.map .char) t = true ↔ EqUpToCase t q := by
  have h := likeMatches_chars_append q [] t
  rw [List.append_nil] at h
  rw [h]
  constructor
  · rintro ⟨u, w, rfl, hu, hw⟩
    rw [likeMatches_nil] at hw
    subst hw
    simpa using hu
  · intro ht
    exact ⟨t, [], by simp, ht, (likeMatches_nil []).2 rfl⟩

/-! ## Escaped texts -/

/-- The characters one character of a text is escaped to. -/
def LikeToken.escaped (c : Char) : List Char :=
  if c == '%' || c == '_' || c == '\\' then ['\\', c] else [c]

theorem toList_escapeLike (s : String) :
    (escapeLike s).toList = s.toList.flatMap LikeToken.escaped := by
  simp only [escapeLike, String.toList_join, List.flatMap_map]
  congr 1
  funext c
  unfold LikeToken.escaped
  split <;> simp

/-- An escaped text reads back as literal characters, whatever follows it. -/
theorem LikeToken.parse_escaped_append (cs rest : List Char) :
    parse (cs.flatMap escaped ++ rest) = cs.map .char ++ parse rest := by
  induction cs with
  | nil => rfl
  | cons c cs ih =>
    rw [List.flatMap_cons, List.append_assoc, List.map_cons, List.cons_append, escaped]
    split
    · rw [List.cons_append, List.cons_append, List.nil_append, parse, ih]
    · -- a plain character is none of the three the reader treats apart
      rename_i h
      simp only [Bool.or_eq_true, beq_iff_eq, not_or] at h
      obtain ⟨⟨h1, h2⟩, h3⟩ := h
      rw [List.singleton_append, parse.eq_5 _ _ (fun _ _ h _ => h3 h) h1 h2, ih]

/-- Reading an escaped text up to its first NUL escapes what stands before the NUL, and goes on
past the escaped text only when it holds no NUL. -/
theorem takeWhile_escaped_append (cs rest : List Char) :
    (cs.flatMap LikeToken.escaped ++ rest).takeWhile (· != '\x00') =
      (cs.takeWhile (· != '\x00')).flatMap LikeToken.escaped ++
        (if '\x00' ∈ cs then [] else rest.takeWhile (· != '\x00')) := by
  induction cs with
  | nil => simp
  | cons c cs ih =>
    by_cases hc : c = '\x00'
    · subst hc
      simp [LikeToken.escaped]
    · have plain : ∀ d ∈ LikeToken.escaped c, (d != '\x00') = true := by
        unfold LikeToken.escaped
        split <;> simp [hc]
      rw [List.flatMap_cons, List.append_assoc, List.takeWhile_append_of_pos plain, ih]
      simp [hc, Ne.symm hc]

theorem beforeNul_of_not_mem {s : String} (h : '\x00' ∉ s.toList) : beforeNul s = s.toList :=
  List.takeWhile_eq_self_iff.2 fun c hc => by
    have : c ≠ '\x00' := fun e => h (e ▸ hc)
    simpa using this

/-- The tokens of a search pattern: `%`, the search text's characters up to its first NUL, and a
closing `%` unless the NUL cut it off. -/
theorem searchPattern_tokens (q : String) :
    LikeToken.parse (beforeNul ("%" ++ escapeLike q ++ "%")) =
      .any :: (beforeNul q).map .char ++ (if '\x00' ∈ q.toList then [] else [.any]) := by
  have cut := takeWhile_escaped_append q.toList ['%']
  simp only [beforeNul, String.toList_append, toList_escapeLike] at cut ⊢
  rw [show "%".toList = ['%'] from rfl, List.singleton_append, List.cons_append,
    List.takeWhile_cons_of_pos rfl, cut, LikeToken.parse, LikeToken.parse_escaped_append]
  split <;> rfl

theorem prefixPattern_tokens (p : String) :
    LikeToken.parse (beforeNul (escapeLike p ++ "%")) =
      (beforeNul p).map .char ++ (if '\x00' ∈ p.toList then [] else [.any]) := by
  have cut := takeWhile_escaped_append p.toList ['%']
  simp only [beforeNul, String.toList_append, toList_escapeLike] at cut ⊢
  rw [show "%".toList = ['%'] from rfl, cut, LikeToken.parse_escaped_append]
  split <;> rfl

/-! ## What the patterns find -/

/-- What the search pattern of `q` finds in a text `s`: `q` anywhere in `s` before its first NUL,
up to ASCII case. A NUL in `q` cuts the pattern there, closing `%` included, so that what is left
of `q` must end that part of `s`. -/
def SearchHit (q s : String) : Prop :=
  if '\x00' ∈ q.toList then EndsUpToCase (beforeNul s) (beforeNul q)
  else HoldsUpToCase (beforeNul s) q.toList

instance (q s : String) : Decidable (SearchHit q s) := inferInstanceAs (Decidable (ite _ _ _))

/-- What the name-prefix pattern of `p` finds in a name `n`: `n` starts with `p` before its first
NUL, up to ASCII case; with a NUL in `p`, that part of `n` is what is left of `p`. -/
def PrefixHit (p n : String) : Prop :=
  if '\x00' ∈ p.toList then EqUpToCase (beforeNul n) (beforeNul p)
  else StartsUpToCase (beforeNul n) p.toList

instance (p n : String) : Decidable (PrefixHit p n) := inferInstanceAs (Decidable (ite _ _ _))

theorem like_searchPattern (q s : String) :
    like s ("%" ++ escapeLike q ++ "%") = true ↔ SearchHit q s := by
  rw [like, searchPattern_tokens, List.cons_append, likeMatches_any_cons, SearchHit]
  by_cases h : '\x00' ∈ q.toList
  · simp only [h, if_true, List.append_nil, likeMatches_chars, endsUpToCase_iff]
  · simp only [h, if_false, likeMatches_chars_append, likeMatches_any, and_true,
      beforeNul_of_not_mem h, holdsUpToCase_iff]
    constructor
    · rintro ⟨a, w, ht, u, b, rfl, hu⟩
      exact ⟨a, u, b, ht, hu⟩
    · rintro ⟨a, u, b, ht, hu⟩
      exact ⟨a, u ++ b, ht, u, b, rfl, hu⟩

theorem like_prefixPattern (p n : String) :
    like n (escapeLike p ++ "%") = true ↔ PrefixHit p n := by
  rw [like, prefixPattern_tokens, PrefixHit]
  by_cases h : '\x00' ∈ p.toList
  · simp only [h, if_true, List.append_nil, likeMatches_chars]
  · simp only [h, if_false, likeMatches_chars_append, likeMatches_any, and_true,
      beforeNul_of_not_mem h, startsUpToCase_iff]

/-- A search text that is a lone NUL finds every service: its pattern reads as `%` alone. -/
theorem nul_search_finds_every_service :
    like "orderSvc:1.0" ("%" ++ escapeLike "\x00" ++ "%") = true ∧
      ¬HoldsUpToCase "orderSvc:1.0".toList "\x00".toList := by
  have hq : "\x00".toList = ['\x00'] := by simp
  have hs : "orderSvc:1.0".toList = ['o', 'r', 'd', 'e', 'r', 'S', 'v', 'c', ':', '1', '.', '0'] := by
    simp
  constructor
  · rw [like, searchPattern_tokens, beforeNul, hq]
    simp only [List.takeWhile_cons, List.mem_singleton, if_true]
    exact likeMatches_any _
  · rw [HoldsUpToCase, hq, hs]
    decide

/-! ## Searching the index -/

namespace Index

/-- The rows a search counts: active, verified, and with a service the search text hits. -/
def searchHits (ix : Index) (q : String) : List ServiceRow :=
  ix.services.filter fun r => r.status == .active && r.verified && decide (SearchHit q r.service)

theorem filter_like_searchPattern (ix : Index) (q : String) :
    ix.services.filter (fun r => r.status == .active && r.verified &&
      like r.service ("%" ++ escapeLike q ++ "%")) = ix.searchHits q :=
  List.filter_congr fun r _ => by
    rw [Bool.eq_iff_iff.2 ((like_searchPattern q r.service).trans decide_eq_true_iff.symm)]

theorem window_eq_nil {α : Type} (l : List α) (skip limit : Int)
    (h : ¬((l.length : Int) > skip ∧ limit > 0)) : (l.drop skip.toNat).take limit.toNat = [] := by
  by_cases hs : (l.length : Int) > skip
  · have : limit.toNat = 0 := by omega
    rw [this, List.take_zero]
  · have : l.length ≤ skip.toNat := by omega
    rw [List.drop_eq_nil_of_le this, List.take_nil]

/-- A search answers exactly when its bounds are in range and the index answers it, and then
counts every row it hits and lists the window `skip`, `limit` of them, newest first. -/
theorem search_eq_ok_iff (ix : Index) (q : String) (skip limit : Int) (pg : SearchPage) :
    ix.search q skip limit = .ok pg ↔
      (ix.Answers .search ∧ 0 ≤ skip ∧ 0 ≤ limit ∧ limit ≤ maxSearchLimit) ∧
      pg = ⟨((((ix.searchHits q).mergeSort fun a b =>
          newerFirst a.modifyTime a.id b.modifyTime b.id).drop skip.toNat).take limit.toNat).map
            fun r => ⟨r.service, r.zone, r.kind⟩,
        (ix.searchHits q).length⟩ := by
  unfold search
  simp only [filter_like_searchPattern]
  by_cases hl : limit > maxSearchLimit
  · have : ¬limit ≤ maxSearchLimit := by omega
    simp [hl, this, throw, throwThe, MonadExceptOf.throw, bind, Except.bind]
  by_cases hn : skip < 0 ∨ limit < 0
  · have : ¬(0 ≤ skip ∧ 0 ≤ limit) := by omega
    simp [hl, hn, throw, throwThe, MonadExceptOf.throw, bind, Except.bind]
    omega
  have hvalid : 0 ≤ skip ∧ 0 ≤ limit ∧ limit ≤ maxSearchLimit := by omega
  by_cases hc : ix.Answers .search
  · have hn' : (decide (skip < 0) || decide (limit < 0)) = false := by simpa using hn
    simp only [hl, hn', hc, hvalid, ensureAnswers_pos hc, Bool.false_eq_true, if_false, bind,
      Except.bind, pure, Except.pure, and_self, true_and]
    -- the code skips the sort when the window is empty; the window is then empty anyway
    split
    · rw [Except.ok.injEq]
      exact eq_comm
    · rename_i hg
      have hg : ¬(((ix.searchHits q).mergeSort fun a b => newerFirst a.modifyTime a.id b.modifyTime
          b.id).length > skip ∧ limit > 0) := by simpa using hg
      rw [window_eq_nil _ _ _ hg, List.map_nil, Except.ok.injEq]
      exact eq_comm
  · simp [hl, hn, hc, ensureAnswers_neg hc, bind, Except.bind]

end Index

/-- Escaped texts match literally: the search pattern of `q` finds `q` in a text, and the prefix
pattern of `p` finds the texts that start with `p`, up to ASCII case and up to the first NUL; so
a search counts and pages exactly the active, verified rows whose service holds its text. -/
theorem escaped_patterns_match_literally (q s p n : String) (ix : Index) (skip limit : Int)
    (pg : SearchPage) :
    (like s ("%" ++ escapeLike q ++ "%") = true ↔ SearchHit q s) ∧
    (like n (escapeLike p ++ "%") = true ↔ PrefixHit p n) ∧
    (ix.search q skip limit = .ok pg ↔
      (ix.Answers .search ∧ 0 ≤ skip ∧ 0 ≤ limit ∧ limit ≤ maxSearchLimit) ∧
      pg = ⟨((((ix.searchHits q).mergeSort fun a b =>
          Index.newerFirst a.modifyTime a.id b.modifyTime b.id).drop skip.toNat).take limit.toNat).map
            fun r => ⟨r.service, r.zone, r.kind⟩,
        (ix.searchHits q).length⟩) :=
  ⟨like_searchPattern q s, like_prefixPattern p n, Index.search_eq_ok_iff ix q skip limit pg⟩

end ControlPlane
