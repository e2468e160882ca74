import ControlPlane.Proofs.Key.Codec

/-!
# The validators up to case folding

The checks of names, services, zones and addresses read their grammar without regard to case, as
a pattern with Unicode case folding reads `[a-z]`: a character passes as a letter when it is the
same letter, up to case, as a small ASCII letter. Besides the 52 ASCII letters, two characters
are: the long s U+017F and the Kelvin sign U+212A. So the checks accept exactly the texts that
the documented ASCII grammar accepts once each character is folded onto the small ASCII letter it
is up to case, and they accept texts that are not ASCII.

1. `Text.mem_caseVariants_comm`: the case folding table links characters both ways, so being
   the same letter up to case is symmetric; `Text.latinSmall_mem_caseVariants_iff` lists the
   characters that are a small ASCII letter up to case.
2. `Grammar.isLetter_eq_mem_folded`: the grammar's letters are the members of the folded class
   `(?i)[a-z]`.
3. `Grammar.asciiFold`, and one lemma per class and per rule of the grammar: a character is in a
   class of the grammar exactly when its fold is in the ASCII class (`isNameChar_iff_fold`, ...),
   a text follows a rule exactly when its fold follows the ASCII rule (`isName_iff_fold`, ...).
4. `validators_accept_ascii_grammar_up_to_case`, and `long_s_name_passes`: a name that is not
   ASCII passes the check.
-/

namespace ControlPlane

namespace Text

/-! ## The case folding table goes both ways -/

/-- Whether `n` is a member of a run of the table: `first + i * stride` for some `i < count`. -/
def InRun (first count stride n : Nat) : Prop :=
  first ≤ n ∧ (n - first) % stride = 0 ∧ (n - first) / stride < count

/-- The code points one run of the table links `n` to. -/
def runLinks (n : Nat) (run : Nat × Nat × Nat × Int) : List Nat :=
  let (first, count, stride, offset) := run
  let fwd :=
    if first ≤ n ∧ (n - first) % stride = 0 ∧ (n - first) / stride < count
    then [(Int.ofNat n + offset).toNat] else []
  let back :=
    let d := Int.ofNat n - offset
    if d ≥ 0 then
      let d := d.toNat
      if first ≤ d ∧ (d - first) % stride = 0 ∧ (d - first) / stride < count
      then [d] else []
    else []
  fwd ++ back

theorem foldLinks_eq (n : Nat) : foldLinks n = caseFoldRuns.flatMap (runLinks n) := by
  unfold foldLinks
  generalize caseFoldRuns = runs
  induction runs with
  | nil => rfl
  | cons run runs ih =>
    obtain ⟨first, count, stride, offset⟩ := run
    rw [List.foldr_cons, ih, List.flatMap_cons]
    rfl

/-- A run links a member to the code point `offset` above it, and that one back. -/
theorem mem_runLinks {m n first count stride : Nat} {offset : Int} (h : 0 ≤ offset) :
    m ∈ runLinks n (first, count, stride, offset) ↔
      (InRun first count stride n ∧ (m : Int) = n + offset) ∨
        (InRun first count stride m ∧ (n : Int) = m + offset) := by
  simp only [runLinks, List.mem_append, Int.ofNat_eq_natCast]
  apply or_congr
  · -- a link forward from a member of the run
    split
    · rename_i hn
      simp only [List.mem_singleton]
      exact ⟨fun e => ⟨hn, by omega⟩, fun e => by omega⟩
    · rename_i hn
      simp only [List.not_mem_nil, false_iff, not_and]
      exact fun h' => absurd h' hn
  · -- a link back from the partner of a member
    split
    · rename_i hd
      split
      · rename_i hr
        simp only [List.mem_singleton]
        constructor
        · intro e
          subst e
          exact ⟨hr, by omega⟩
        · rintro ⟨-, e⟩
          omega
      · rename_i hr
        simp only [List.not_mem_nil, false_iff, not_and]
        intro hm e
        have : ((n : Int) - offset).toNat = m := by omega
        exact hr (this ▸ hm)
    · rename_i hd
      simp only [List.not_mem_nil, false_iff, not_and]
      intro _ e
      omega

theorem mem_runLinks_comm {m n : Nat} {run : Nat × Nat × Nat × Int} (h : 0 ≤ run.2.2.2) :
    m ∈ runLinks n run ↔ n ∈ runLinks m run := by
  obtain ⟨first, count, stride, offset⟩ := run
  rw [mem_runLinks h, mem_runLinks h, or_comm]

theorem caseFoldRuns_offset_nonneg : ∀ run ∈ caseFoldRuns, 0 ≤ run.2.2.2 := by decide +kernel

theorem mem_foldLinks_comm {m n : Nat} : m ∈ foldLinks n ↔ n ∈ foldLinks m := by
  simp only [foldLinks_eq, List.mem_flatMap]
  constructor
  · rintro ⟨run, hrun, hm⟩
    exact ⟨run, hrun, (mem_runLinks_comm (caseFoldRuns_offset_nonneg run hrun)).1 hm⟩
  · rintro ⟨run, hrun, hn⟩
    exact ⟨run, hrun, (mem_runLinks_comm (caseFoldRuns_offset_nonneg run hrun)).2 hn⟩

/-- The case variants of `n`: itself, its links, and their links. -/
theorem mem_caseVariants {m n : Nat} :
    m ∈ caseVariants n ↔ m = n ∨ m ∈ foldLinks n ∨ ∃ e ∈ foldLinks n, m ∈ foldLinks e := by
  simp only [caseVariants, List.mem_eraseDups, List.mem_append, List.mem_cons, List.mem_flatMap]
  constructor
  · rintro ((rfl | h) | ⟨e, rfl | he, hm⟩)
    · exact .inl rfl
    · exact .inr (.inl h)
    · exact .inr (.inl hm)
    · exact .inr (.inr ⟨e, he, hm⟩)
  · rintro (rfl | h | ⟨e, he, hm⟩)
    · exact .inl (.inl rfl)
    · exact .inl (.inr h)
    · exact .inr ⟨e, .inr he, hm⟩

/-- Being the same letter up to case is symmetric. -/
theorem mem_caseVariants_comm {m n : Nat} : m ∈ caseVariants n ↔ n ∈ caseVariants m := by
  -- swapping the ends of each link reverses a chain of at most two links
  suffices ∀ {m n : Nat}, m ∈ caseVariants n → n ∈ caseVariants m from ⟨this, this⟩
  intro m n h
  rw [mem_caseVariants] at h ⊢
  rcases h with rfl | h | ⟨e, he, hm⟩
  · exact .inl rfl
  · exact .inr (.inl (mem_foldLinks_comm.1 h))
  · exact .inr (.inr ⟨e, mem_foldLinks_comm.1 hm, mem_foldLinks_comm.1 he⟩)

theorem latinSmall_caseVariants_perm :
    ((List.range' 0x61 26).flatMap caseVariants).Perm
      (List.range' 0x41 26 ++ List.range' 0x61 26 ++ [0x17F, 0x212A]) := by
  decide +kernel

/-- A code point is a small ASCII letter up to case exactly when it is an ASCII letter, the long
s or the Kelvin sign. -/
theorem latinSmall_mem_caseVariants_iff (n : Nat) :
    (∃ d ∈ caseVariants n, 0x61 ≤ d ∧ d ≤ 0x7A) ↔
      (0x41 ≤ n ∧ n ≤ 0x5A) ∨ (0x61 ≤ n ∧ n ≤ 0x7A) ∨ n = 0x17F ∨ n = 0x212A := by
  have variants : (∃ d ∈ caseVariants n, 0x61 ≤ d ∧ d ≤ 0x7A) ↔
      n ∈ (List.range' 0x61 26).flatMap caseVariants := by
    rw [List.mem_flatMap]
    constructor
    · rintro ⟨d, hd, lo, hi⟩
      exact ⟨d, List.mem_range'_1.2 ⟨lo, by omega⟩, mem_caseVariants_comm.1 hd⟩
    · rintro ⟨d, hd, hn⟩
      obtain ⟨lo, hi⟩ := List.mem_range'_1.1 hd
      exact ⟨d, mem_caseVariants_comm.1 hn, lo, by omega⟩
  rw [variants, latinSmall_caseVariants_perm.mem_iff]
  simp only [List.mem_append, List.mem_range'_1, List.mem_cons, List.not_mem_nil, or_false]
  omega

end Text

namespace Grammar

/-! ## Letters -/

theorem isLower_iff {c : Char} : c.isLower = true ↔ 0x61 ≤ c.toNat ∧ c.toNat ≤ 0x7A := by
  have def_lower : c.isLower = (decide (c.val ≥ 'a'.val) && decide (c.val ≤ 'z'.val)) := rfl
  simp [def_lower, UInt32.le_iff_toNat_le]

theorem isAlpha_iff {c : Char} :
    c.isAlpha = true ↔ (0x41 ≤ c.toNat ∧ c.toNat ≤ 0x5A) ∨ (0x61 ≤ c.toNat ∧ c.toNat ≤ 0x7A) := by
  have def_upper : c.isUpper = decide (c.val ≥ 'A'.val ∧ c.val ≤ 'Z'.val) := rfl
  have def_alpha : c.isAlpha = (c.isUpper || c.isLower) := rfl
  rw [def_alpha, Bool.or_eq_true, isLower_iff, def_upper]
  simp [UInt32.le_iff_toNat_le]

theorem toNat_ofNat_of_lt {d : Nat} (h : d < 0xD800) : (Char.ofNat d).toNat = d := by
  rw [Char.ofNat, dif_pos (Or.inl h)]
  rfl

theorem isAlpha_of_isLower {c : Char} (h : c.isLower = true) : c.isAlpha = true := by
  have def_alpha : c.isAlpha = (c.isUpper || c.isLower) := rfl
  rw [def_alpha, h, Bool.or_true]

/-- The grammar's letters are what `(?i)[a-z]` matches: the characters that are a small ASCII
letter up to Unicode case folding. -/
theorem isLetter_eq_mem_folded (c : Char) :
    isLetter c = (Pattern.CharClass.folded (.ranges [('a'.toNat, 'z'.toNat)])).mem c := by
  apply Bool.eq_iff_iff.2
  simp only [Pattern.CharClass.mem, Pattern.CharClass.memNat, List.any_cons, List.any_nil,
    Bool.or_false, List.any_eq_true, Bool.and_eq_true, decide_eq_true_eq]
  rw [show 'a'.toNat = 0x61 from rfl, show 'z'.toNat = 0x7A from rfl,
    Text.latinSmall_mem_caseVariants_iff, isLetter, Bool.or_eq_true, Bool.or_eq_true, isAlpha_iff]
  simp only [decide_eq_true_eq]
  omega

theorem isAlpha_eq_false_of_not_letter {c : Char} (h : isLetter c = false) : c.isAlpha = false := by
  simp only [isLetter, Bool.or_eq_false_iff] at h
  exact h.1.1

/-! ## Folding onto ASCII -/

/-- The small ASCII letter a character is up to Unicode case folding, when it is one. -/
def latinSmallOf (c : Char) : Option Nat :=
  (Text.caseVariants c.toNat).find? fun d => 0x61 ≤ d && d ≤ 0x7A

/-- A character with its case folded onto the small ASCII letters: the small ASCII letter it is
up to case, or the character itself when it is none. -/
def asciiFold (c : Char) : Char :=
  match latinSmallOf c with
  | some d => Char.ofNat d
  | none => c

/-- A letter folds to a small ASCII letter; any other character folds to itself. -/
theorem asciiFold_cases (c : Char) :
    (isLetter c = true ∧ (asciiFold c).isLower = true) ∨ (isLetter c = false ∧ asciiFold c = c) := by
  have folded := isLetter_eq_mem_folded c
  simp only [Pattern.CharClass.mem, Pattern.CharClass.memNat, List.any_cons, List.any_nil,
    Bool.or_false] at folded
  unfold asciiFold
  cases h : latinSmallOf c with
  | some d =>
    have small : 0x61 ≤ d ∧ d ≤ 0x7A := by simpa using List.find?_some h
    refine .inl ⟨?_, ?_⟩
    · rw [folded, List.any_eq_true]
      exact ⟨d, List.mem_of_find?_eq_some h, by simpa using small⟩
    · rw [isLower_iff, toNat_ofNat_of_lt (by omega)]
      exact small
  | none =>
    refine .inr ⟨?_, rfl⟩
    rw [folded, Bool.eq_false_iff, ne_eq, List.any_eq_true]
    rintro ⟨d, hd, hsmall⟩
    have := List.find?_eq_none.1 h d hd
    simp only [Bool.and_eq_true, decide_eq_true_eq] at hsmall this
    exact this hsmall

-- one decision per conjunct: deciding the conjunction whole takes the kernel ten times longer
example : asciiFold 'ſ' = 's' ∧ asciiFold 'K' = 'k' ∧ asciiFold 'Q' = 'q' :=
  ⟨by decide +kernel, by decide +kernel, by decide +kernel⟩

/-- Folding keeps a character apart from every character that is no letter. -/
theorem asciiFold_eq_iff {c p : Char} (hp : isLetter p = false) : asciiFold c = p ↔ c = p := by
  rcases asciiFold_cases c with ⟨hl, hlow⟩ | ⟨-, hfix⟩
  · have hfold : isLetter (asciiFold c) = true := by
      simp [isLetter, isAlpha_of_isLower hlow]
    constructor
    · intro h
      rw [h, hp] at hfold
      cases hfold
    · rintro rfl
      rw [hl] at hp
      cases hp
  · rw [hfix]

/-! ## The documented grammar over ASCII -/

/-- A character that may follow the first one of a name or a version: `[A-Za-z0-9_.-]`. -/
def AsciiNameChar (c : Char) : Prop := c.isAlphanum = true ∨ c = '_' ∨ c = '.' ∨ c = '-'

/-- A character that may follow the first one of a zone: `[A-Za-z0-9_-]`. -/
def AsciiZoneChar (c : Char) : Prop := c.isAlphanum = true ∨ c = '_' ∨ c = '-'

/-- A character of an address: `[A-Za-z0-9:_.-]`. -/
def AsciiAddressChar (c : Char) : Prop :=
  c.isAlphanum = true ∨ c = ':' ∨ c = '_' ∨ c = '.' ∨ c = '-'

/-- A name: `[A-Za-z][A-Za-z0-9_.-]{5,}`. -/
def AsciiName (cs : List Char) : Prop :=
  ∃ c rest, cs = c :: rest ∧ c.isAlpha = true ∧ 5 ≤ rest.length ∧ ∀ d ∈ rest, AsciiNameChar d

/-- A version: `[A-Za-z0-9][A-Za-z0-9_.-]*`. -/
def AsciiVersion (cs : List Char) : Prop :=
  ∃ c rest, cs = c :: rest ∧ c.isAlphanum = true ∧ ∀ d ∈ rest, AsciiNameChar d

/-- A zone: `[A-Za-z0-9][A-Za-z0-9_-]*`. -/
def AsciiZone (cs : List Char) : Prop :=
  ∃ c rest, cs = c :: rest ∧ c.isAlphanum = true ∧ ∀ d ∈ rest, AsciiZoneChar d

/-- An address: `[A-Za-z0-9:_.-]+`. -/
def AsciiAddress (cs : List Char) : Prop := cs ≠ [] ∧ ∀ d ∈ cs, AsciiAddressChar d

/-! ## Each class of the grammar, folded -/

theorem isLetter_iff_fold (c : Char) : isLetter c = true ↔ (asciiFold c).isAlpha = true := by
  rcases asciiFold_cases c with ⟨hl, hlow⟩ | ⟨hl, hfix⟩
  · simp [hl, isAlpha_of_isLower hlow]
  · simp [hl, hfix, isAlpha_eq_false_of_not_letter hl]

theorem isLetterOrDigit_iff_fold (c : Char) :
    isLetterOrDigit c = true ↔ (asciiFold c).isAlphanum = true := by
  rcases asciiFold_cases c with ⟨hl, hlow⟩ | ⟨hl, hfix⟩
  · simp [isLetterOrDigit, Char.isAlphanum, hl, isAlpha_of_isLower hlow]
  · simp [isLetterOrDigit, Char.isAlphanum, hl, hfix, isAlpha_eq_false_of_not_letter hl]

theorem isNameChar_iff_fold (c : Char) : isNameChar c = true ↔ AsciiNameChar (asciiFold c) := by
  simp only [isNameChar, AsciiNameChar, Bool.or_eq_true, isLetterOrDigit_iff_fold,
    decide_eq_true_eq, asciiFold_eq_iff (show isLetter '_' = false by decide),
    asciiFold_eq_iff (show isLetter '.' = false by decide),
    asciiFold_eq_iff (show isLetter '-' = false by decide), or_assoc]

theorem isZoneChar_iff_fold (c : Char) : isZoneChar c = true ↔ AsciiZoneChar (asciiFold c) := by
  simp only [isZoneChar, AsciiZoneChar, Bool.or_eq_true, isLetterOrDigit_iff_fold,
    decide_eq_true_eq, asciiFold_eq_iff (show isLetter '_' = false by decide),
    asciiFold_eq_iff (show isLetter '-' = false by decide), or_assoc]

theorem isAddressChar_iff_fold (c : Char) :
    isAddressChar c = true ↔ AsciiAddressChar (asciiFold c) := by
  simp only [isAddressChar, AsciiAddressChar, Bool.or_eq_true, isLetterOrDigit_iff_fold,
    decide_eq_true_eq, asciiFold_eq_iff (show isLetter ':' = false by decide),
    asciiFold_eq_iff (show isLetter '_' = false by decide),
    asciiFold_eq_iff (show isLetter '.' = false by decide),
    asciiFold_eq_iff (show isLetter '-' = false by decide), or_assoc]

/-! ## Each rule of the grammar, folded -/

theorem isName_iff_fold (cs : List Char) : isName cs = true ↔ AsciiName (cs.map asciiFold) := by
  cases cs with
  | nil => simp [isName, AsciiName]
  | cons c rest =>
    simp only [isName, Bool.and_eq_true, List.all_eq_true, decide_eq_true_eq, isLetter_iff_fold,
      isNameChar_iff_fold]
    constructor
    · rintro ⟨⟨hc, hrest⟩, hlen⟩
      exact ⟨asciiFold c, rest.map asciiFold, rfl, hc, by simpa using hlen, by simpa using hrest⟩
    · rintro ⟨c', rest', h, hc, hlen, hrest⟩
      obtain ⟨rfl, rfl⟩ := List.cons.inj h
      exact ⟨⟨hc, by simpa using hrest⟩, by simpa using hlen⟩

/-- A first character of one class and then characters of another, read on the folded text. -/
theorem lead_all_iff_fold {lead tail : Char → Bool} {Lead Tail : Char → Prop}
    (hlead : ∀ c, lead c = true ↔ Lead (asciiFold c))
    (htail : ∀ c, tail c = true ↔ Tail (asciiFold c)) (c : Char) (rest : List Char) :
    (lead c && rest.all tail) = true ↔
      ∃ c' rest', (c :: rest).map asciiFold = c' :: rest' ∧ Lead c' ∧ ∀ d ∈ rest', Tail d := by
  simp only [Bool.and_eq_true, List.all_eq_true, hlead, htail, List.map_cons, List.cons.injEq]
  constructor
  · rintro ⟨hc, hrest⟩
    exact ⟨asciiFold c, rest.map asciiFold, ⟨rfl, rfl⟩, hc, by simpa using hrest⟩
  · rintro ⟨c', rest', ⟨rfl, rfl⟩, hc, hrest⟩
    exact ⟨hc, by simpa using hrest⟩

theorem isVersion_iff_fold (cs : List Char) :
    isVersion cs = true ↔ AsciiVersion (cs.map asciiFold) := by
  cases cs with
  | nil => simp [isVersion, AsciiVersion]
  | cons c rest => exact lead_all_iff_fold isLetterOrDigit_iff_fold isNameChar_iff_fold c rest

theorem isZone_iff_fold (cs : List Char) : isZone cs = true ↔ AsciiZone (cs.map asciiFold) := by
  cases cs with
  | nil => simp [isZone, AsciiZone]
  | cons c rest => exact lead_all_iff_fold isLetterOrDigit_iff_fold isZoneChar_iff_fold c rest

theorem isAddress_iff_fold (cs : List Char) :
    isAddress cs = true ↔ AsciiAddress (cs.map asciiFold) := by
  simp [isAddress, AsciiAddress, isAddressChar_iff_fold]

/-- A colon never stands in a name. -/
theorem colon_not_mem_of_isName {cs : List Char} (h : isName cs = true) : ':' ∉ cs := by
  cases cs with
  | nil => simp
  | cons c rest =>
    simp only [isName, Bool.and_eq_true, List.all_eq_true] at h
    obtain ⟨⟨hc, hrest⟩, -⟩ := h
    rintro (_ | ⟨_, hm⟩)
    · cases hc
    · cases hrest ':' hm

/-- A service is a name, a colon and a version. -/
theorem isService_iff (cs : List Char) :
    isService cs = true ↔ ∃ n v, cs = n ++ ':' :: v ∧ isName n = true ∧ isVersion v = true := by
  constructor
  · intro h
    unfold isService at h
    split at h
    · rename_i sep version hdrop
      have whole := List.takeWhile_append_dropWhile (p := fun c => decide (c ≠ ':')) (l := cs)
      rw [hdrop] at whole
      -- the text splits at its first colon
      have hsep : sep = ':' := by simpa using dropWhile_eq_cons_head hdrop
      subst hsep
      simp only [Bool.and_eq_true] at h
      exact ⟨_, version, whole.symm, h.1, h.2⟩
    · cases h
  · rintro ⟨n, v, rfl, hn, hv⟩
    have hc := colon_not_mem_of_isName hn
    unfold isService
    rw [dropWhile_segment hc]
    simp only [takeWhile_segment hc, hn, hv, Bool.and_self]

end Grammar

/-! ## The checks -/

theorem checkName_eq_ok_iff (x : String) : checkName x = .ok () ↔ Grammar.isName x.toList := by
  unfold checkName
  split <;> simp [*]

theorem checkService_eq_ok_iff (x : String) :
    checkService x = .ok () ↔ Grammar.isService x.toList := by
  unfold checkService
  split <;> simp [*]

theorem checkZone_eq_ok_iff (x : String) : checkZone x = .ok () ↔ Grammar.isZone x.toList := by
  unfold checkZone
  split <;> simp [*]

theorem AddressPolicy.check_eq_ok_iff (policy : AddressPolicy) (x : String) :
    policy.check x = .ok () ↔
      Grammar.isAddress x.toList = true ∧ ∀ r ∈ policy.banned, r.isMatch x = false := by
  have banned : policy.isBanned x = false ↔ ∀ r ∈ policy.banned, r.isMatch x = false := by
    simp [isBanned]
  unfold check
  by_cases he : x.isEmpty
  · -- an empty text is refused first, and is no address anyway
    have : Grammar.isAddress x.toList = false := by
      simp [Grammar.isAddress, String.isEmpty_iff.1 he]
    simp [he, this]
  · rw [← banned]
    by_cases ha : Grammar.isAddress x.toList = true
    · cases policy.isBanned x <;> simp [he, ha]
    · simp [he, ha]

/-- The checks accept exactly what the documented ASCII grammar accepts once each character is
folded onto the small ASCII letter it is up to case: a name, a name and a version joined by a
colon, a zone, and an address that no pattern of the ban list matches. -/
theorem validators_accept_ascii_grammar_up_to_case (policy : AddressPolicy) (x : String) :
    (checkName x = .ok () ↔ Grammar.AsciiName (x.toList.map Grammar.asciiFold)) ∧
    (checkService x = .ok () ↔ ∃ n v : String, x = n ++ ":" ++ v ∧ checkName n = .ok () ∧
      Grammar.AsciiVersion (v.toList.map Grammar.asciiFold)) ∧
    (checkZone x = .ok () ↔ Grammar.AsciiZone (x.toList.map Grammar.asciiFold)) ∧
    (policy.check x = .ok () ↔ Grammar.AsciiAddress (x.toList.map Grammar.asciiFold) ∧
      ∀ r ∈ policy.banned, r.isMatch x = false) := by
  refine ⟨?_, ?_, ?_, ?_⟩
  · rw [checkName_eq_ok_iff, Grammar.isName_iff_fold]
  · rw [checkService_eq_ok_iff, Grammar.isService_iff]
    constructor
    · rintro ⟨n, v, hx, hn, hv⟩
      refine ⟨String.ofList n, String.ofList v, String.toList_injective ?_, ?_, ?_⟩
      · simp [hx]
      · rw [checkName_eq_ok_iff, String.toList_ofList]
        exact hn
      · rw [String.toList_ofList, ← Grammar.isVersion_iff_fold]
        exact hv
    · rintro ⟨n, v, rfl, hn, hv⟩
      refine ⟨n.toList, v.toList, by simp, (checkName_eq_ok_iff n).1 hn, ?_⟩
      exact (Grammar.isVersion_iff_fold _).2 hv
  · rw [checkZone_eq_ok_iff, Grammar.isZone_iff_fold]
  · rw [AddressPolicy.check_eq_ok_iff, Grammar.isAddress_iff_fold]

/-- A name that starts with the long s passes the check, although it is not ASCII. -/
theorem long_s_name_passes :
    checkName "ſervice" = .ok () ∧ ∃ c ∈ "ſervice".toList, 128 ≤ c.toNat := by
  have hs : "ſervice".toList = ['ſ', 'e', 'r', 'v', 'i', 'c', 'e'] := by simp
  refine ⟨?_, 'ſ', by simp [hs], by decide⟩
  rw [checkName_eq_ok_iff, hs]
  decide

end ControlPlane
