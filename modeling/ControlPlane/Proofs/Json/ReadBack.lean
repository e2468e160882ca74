import ControlPlane.Service.Descriptor
import Mathlib.Tactic.SplitIfs

/-!
# Stored records read back

Endpoints and descriptors are stored as compact JSON objects of string fields and read back by
a strict reader. What the writer produces, the reader takes back unchanged:

1. Strings: each character that `quote` escapes, with a short escape or a six-character `\u`
   escape, is read back by `readStringBody` as the character it stands for
   (`readStringBody_escapeChar`), so a quoted string reads back as itself (`readString_quote`).
2. Objects: the members of an object of string fields, each field of the shape and named once,
   are read in order (`readMembers_fields`), and the object gives back its fields completed by
   the shape (`readRecord_obj`).
3. Optional fields: an object written with `objOpt` reads back as all its values, the ones left
   out empty (`readRecord_objOpt`).
4. `Endpoint.read?_text` and `Descriptor.read?_text`: a stored endpoint or descriptor reads back
   as itself.
-/

namespace ControlPlane

namespace Json

/-! ## Strings -/

theorem hexValue?_hexDigit : ∀ n, n < 16 → hexValue? (hexDigit n) = some n
  | 0, _ | 1, _ | 2, _ | 3, _ | 4, _ | 5, _ | 6, _ | 7, _ | 8, _ | 9, _ | 10, _ | 11, _ | 12, _
  | 13, _ | 14, _ | 15, _ => by decide
  | _ + 16, h => absurd h (by omega)

theorem readStringBody_plain {strict : Bool} {acc rest : List Char} {c : Char} (hq : c ≠ '"')
    (hb : c ≠ '\\') (hlt : ¬ c.toNat < 0x20) :
    readStringBody strict acc (c :: rest) = readStringBody strict (c :: acc) rest := by
  rw [readStringBody.eq_5 _ _ _ _ hq (fun _ _ _ _ _ _ _ _ _ h => absurd h hb)
    (fun _ _ _ _ _ h => absurd h hb) (fun _ _ h => absurd h hb), if_neg hlt]

theorem readStringBody_short {strict : Bool} {acc rest : List Char} {e c : Char} (he : e ≠ 'u')
    (hs : shortEscape? e = some c) :
    readStringBody strict acc ('\\' :: e :: rest) = readStringBody strict (c :: acc) rest := by
  rw [readStringBody.eq_4 _ _ _ _ (fun _ _ _ _ _ _ _ _ _ h => absurd h he)
    (fun _ _ _ _ _ h => absurd h he), hs]

/-- A `\u` escape of a code below the surrogates stands for that character, whether or not
another escape follows it. -/
theorem readStringBody_unicode {strict : Bool} {acc rest : List Char} {a b c d : Char} {n : Nat}
    (hn : hex4? a b c d = some n) (hlow : n < 0xD800) :
    readStringBody strict acc ('\\' :: 'u' :: a :: b :: c :: d :: rest) =
      readStringBody strict (Char.ofNat n :: acc) rest := by
  have high : isHighSurrogate n = false := by simp [isHighSurrogate]; omega
  have low : isLowSurrogate n = false := by simp [isLowSurrogate]; omega
  -- a second escape right after is read by the paired-surrogate rule, which passes it on
  by_cases hpair : ∃ a2 b2 c2 d2 more, rest = '\\' :: 'u' :: a2 :: b2 :: c2 :: d2 :: more
  · obtain ⟨a2, b2, c2, d2, more, rfl⟩ := hpair
    rw [readStringBody.eq_2, hn]
    simp [high, low]
  · rw [readStringBody.eq_3 _ _ _ _ _ _ _
      (fun a2 b2 c2 d2 more h => hpair ⟨a2, b2, c2, d2, more, h⟩), hn]
    simp [high, low]

theorem hex4?_control {n : Nat} (h : n < 0x20) :
    hex4? '0' '0' (hexDigit (n / 16)) (hexDigit (n % 16)) = some n := by
  simp only [hex4?, hexValue?_hexDigit _ (show n / 16 < 16 by omega),
    hexValue?_hexDigit _ (show n % 16 < 16 by omega)]
  have zero : hexValue? '0' = some 0 := by decide
  simp only [zero, Option.bind_eq_bind, Option.bind_some, Option.pure_def]
  congr 1
  omega

/-- Whatever `escapeChar` writes for a character is read back as that character. -/
theorem readStringBody_escapeChar {strict : Bool} (acc rest : List Char) (c : Char) :
    readStringBody strict acc (escapeChar c ++ rest) = readStringBody strict (c :: acc) rest := by
  have ofNat : ∀ n, c.toNat = n → Char.ofNat n = c := fun n h => h ▸ Char.ofNat_toNat c
  unfold escapeChar
  split_ifs with h1 h2 h3 h4 h5 h6 h7 h8
  · subst h1; exact readStringBody_short (by decide) (by decide)
  · subst h2; exact readStringBody_short (by decide) (by decide)
  · subst h3; exact readStringBody_short (by decide) (by decide)
  · subst h4; exact readStringBody_short (by decide) (by decide)
  · subst h5; exact readStringBody_short (by decide) (by decide)
  · rw [← ofNat 8 h6]; exact readStringBody_short (by decide) (by decide)
  · rw [← ofNat 12 h7]; exact readStringBody_short (by decide) (by decide)
  · simp only [List.cons_append, List.nil_append]
    rw [readStringBody_unicode (hex4?_control h8) (by omega), Char.ofNat_toNat]
  · exact readStringBody_plain h1 h2 h8

theorem readStringBody_escaped {strict : Bool} (rest : List Char) :
    ∀ (cs acc : List Char), readStringBody strict acc (cs.flatMap escapeChar ++ '"' :: rest) =
      some (String.ofList (acc.reverse ++ cs), rest)
  | [], acc => by simp [readStringBody.eq_1]
  | c :: cs, acc => by
    rw [List.flatMap_cons, List.append_assoc, readStringBody_escapeChar,
      readStringBody_escaped rest cs (c :: acc)]
    simp

/-! ## Objects -/

theorem toList_quote (s : String) :
    (quote s).toList = '"' :: (s.toList.flatMap escapeChar ++ ['"']) := by
  simp [quote]

theorem skipBlanks_cons {c : Char} (h : isBlank c = false) (rest : List Char) :
    skipBlanks (c :: rest) = c :: rest := by
  simp [skipBlanks, h]

theorem readString_quote (s : String) (after : List Char) (strict : Bool) :
    readStringBody strict [] ((quote s).toList.tail ++ after) = some (s, after) := by
  rw [toList_quote, List.tail_cons, List.append_assoc, List.singleton_append,
    readStringBody_escaped]
  simp

/-- One member of a known field not read yet: its name and value are read, and what follows
decides whether more members come. -/
theorem readMembers_member {shape : RecordShape} {found : List (String × String)} {k v : String}
    (hk : shape.names.contains k) (hfresh : found.lookup k = none) (fuel : Nat)
    (after : List Char) :
    readMembers shape (fuel + 1) found ((quote k).toList ++ ':' :: ((quote v).toList ++ after)) =
      match skipBlanks after with
      | ',' :: more => readMembers shape fuel (found ++ [(k, v)]) more
      | '}' :: more => some (found ++ [(k, v)], more)
      | _ => none := by
  rw [readMembers.eq_2]
  obtain ⟨tk, htk⟩ : ∃ t, (quote k).toList = '"' :: t := ⟨_, toList_quote k⟩
  obtain ⟨tv, htv⟩ : ∃ t, (quote v).toList = '"' :: t := ⟨_, toList_quote v⟩
  have key := readString_quote k (':' :: ((quote v).toList ++ after)) true
  have val := readString_quote v after true
  rw [htk] at key ⊢
  rw [htv] at val
  simp only [List.tail_cons] at key val
  simp only [List.cons_append, skipBlanks_cons (show isBlank '"' = false by decide)]
  rw [key]
  simp only [Option.bind_eq_bind, Option.bind_some,
    skipBlanks_cons (show isBlank ':' = false by decide), hk, hfresh, Option.isSome_none,
    readFieldString, htv, List.cons_append]
  simp only [skipBlanks_cons (show isBlank '"' = false by decide), val, Option.bind_some,
    Bool.false_eq_true, if_false, if_true]
  rfl

theorem readMembers_last {shape : RecordShape} {found : List (String × String)} {k v : String}
    (hk : shape.names.contains k) (hfresh : found.lookup k = none) (fuel : Nat) (more : List Char) :
    readMembers shape (fuel + 1) found
        ((quote k).toList ++ ':' :: ((quote v).toList ++ '}' :: more)) =
      some (found ++ [(k, v)], more) := by
  rw [readMembers_member hk hfresh]
  rfl

theorem readMembers_next {shape : RecordShape} {found : List (String × String)} {k v : String}
    (hk : shape.names.contains k) (hfresh : found.lookup k = none) (fuel : Nat) (more : List Char) :
    readMembers shape (fuel + 1) found
        ((quote k).toList ++ ':' :: ((quote v).toList ++ ',' :: more)) =
      readMembers shape fuel (found ++ [(k, v)]) more := by
  rw [readMembers_member hk hfresh]
  rfl

/-- Fields of string values as JSON members. -/
def strMembers (fields : List (String × String)) : List (String × Json) :=
  fields.map fun p => (p.1, .str p.2)

/-- The members of an object of string fields, each a field of the shape named once and not
read yet, are read in order up to the closing brace. -/
theorem readMembers_fields {shape : RecordShape} (more : List Char) :
    ∀ (fields found : List (String × String)) (fuel : Nat), fields ≠ [] →
      fields.length ≤ fuel →
      (∀ p ∈ fields, shape.names.contains p.1) → ((found ++ fields).map Prod.fst).Nodup →
      readMembers shape fuel found ((writeFields (strMembers fields)).toList ++ '}' :: more) =
        some (found ++ fields, more)
  | [], _, _, hne, _, _, _ => absurd rfl hne
  | (k, v) :: rest, found, fuel, _, hlen, hnames, hnodup => by
    obtain ⟨fuel, rfl⟩ : ∃ f, fuel = f + 1 := ⟨fuel - 1, by simp at hlen; omega⟩
    have fresh : found.lookup k = none := by
      refine List.lookup_eq_none_iff.2 fun p hp => bne_iff_ne.2 fun hkp => ?_
      simp only [List.map_append, List.map_cons] at hnodup
      exact (List.nodup_append.1 hnodup).2.2 _ (List.mem_map_of_mem hp) _ List.mem_cons_self
        hkp.symm
    have hk := hnames (k, v) List.mem_cons_self
    cases rest with
    | nil =>
      have w : (writeFields (strMembers [(k, v)])).toList =
          (quote k).toList ++ ':' :: (quote v).toList := by
        simp [strMembers, writeFields, write]
      rw [w, List.append_assoc, List.cons_append, readMembers_last hk fresh]
    | cons q rest =>
      have w : (writeFields (strMembers ((k, v) :: q :: rest))).toList =
          (quote k).toList ++ ':' :: (quote v).toList ++
            ',' :: (writeFields (strMembers (q :: rest))).toList := by
        simp [strMembers, writeFields.eq_3, write]
      rw [w, List.append_assoc, List.cons_append, List.append_assoc, List.cons_append,
        readMembers_next hk fresh]
      rw [readMembers_fields more (q :: rest) (found ++ [(k, v)]) fuel (List.cons_ne_nil _ _)
        (by simp at hlen ⊢; omega) (fun p hp => hnames p (List.mem_cons_of_mem _ hp))
        (by simpa using hnodup)]
      simp

theorem writeFields_cons (k v : String) (rest : List (String × String)) :
    ∃ t, (writeFields (strMembers ((k, v) :: rest))).toList = '"' :: t := by
  cases rest with
  | nil => simp [strMembers, writeFields, toList_quote]
  | cons q rest => simp [strMembers, writeFields.eq_3, toList_quote]

/-- Each field takes at least one character. -/
theorem length_le_writeFields : ∀ fields : List (String × String),
    fields.length ≤ (writeFields (strMembers fields)).toList.length
  | [] => by simp
  | [(k, v)] => by simp [strMembers, writeFields, toList_quote]
  | (k, v) :: q :: rest => by
    have ih := length_le_writeFields (q :: rest)
    simp only [strMembers, List.map_cons] at ih ⊢
    rw [writeFields.eq_3 _ _ _ (List.cons_ne_nil _ _)]
    simp only [List.length_cons] at ih
    simp [toList_quote]
    omega

/-- An object of string fields, each a field of the shape named once, reads back as those
fields, completed by the shape. -/
theorem readRecord_obj {shape : RecordShape} {fields : List (String × String)}
    (hne : fields ≠ []) (hnames : ∀ p ∈ fields, shape.names.contains p.1)
    (hnodup : (fields.map Prod.fst).Nodup) :
    readRecord shape (Json.obj (strMembers fields)).write = completeRecord shape fields := by
  obtain ⟨⟨k, v⟩, rest, rfl⟩ := List.exists_cons_of_ne_nil hne
  obtain ⟨t, ht⟩ := writeFields_cons k v rest
  have members : ∀ fuel, ((k, v) :: rest).length ≤ fuel →
      readMembers shape fuel [] ('"' :: (t ++ ['}'])) = some ((k, v) :: rest, []) := by
    intro fuel hfuel
    have := readMembers_fields [] ((k, v) :: rest) [] fuel hne hfuel hnames
      (by simpa using hnodup)
    rwa [ht, List.nil_append] at this
  have hlen := length_le_writeFields ((k, v) :: rest)
  have text : (Json.obj (strMembers ((k, v) :: rest))).write.toList =
      '{' :: '"' :: (t ++ ['}']) := by
    simp [write, ht]
  unfold readRecord
  rw [text]
  dsimp only
  have fuel : ((k, v) :: rest).length ≤ ('{' :: '"' :: (t ++ ['}'])).length + 1 := by
    rw [ht] at hlen
    simp at hlen ⊢
    omega
  simp only [skipBlanks_cons (show isBlank '{' = false by decide),
    skipBlanks_cons (show isBlank '"' = false by decide), members _ fuel]
  rfl

/-! ## Optional fields -/

/-- The fields of optional string values that are written: the present ones, in order. -/
def presentFields (fs : List (String × Option String)) : List (String × String) :=
  fs.filterMap fun p => p.2.map (p.1, ·)

theorem objOpt_strs (fs : List (String × Option String)) :
    objOpt (fs.map fun p => (p.1, p.2.map .str)) = .obj (strMembers (presentFields fs)) := by
  induction fs with
  | nil => rfl
  | cons p fs ih =>
    obtain ⟨k, o⟩ := p
    cases o <;> simp_all [objOpt, strMembers, presentFields]

/-- The written fields are some of the fields, in order. -/
theorem presentFields_sublist (fs : List (String × Option String)) :
    ((presentFields fs).map Prod.fst).Sublist (fs.map Prod.fst) := by
  induction fs with
  | nil => exact List.Sublist.slnil
  | cons p fs ih =>
    obtain ⟨k, o⟩ := p
    cases o with
    | none => exact ih.cons k
    | some v => exact ih.cons_cons k

theorem lookup_presentFields {fs : List (String × Option String)}
    (hnodup : (fs.map Prod.fst).Nodup) {p : String × Option String} (hp : p ∈ fs) :
    (presentFields fs).lookup p.1 = p.2 := by
  induction fs with
  | nil => cases hp
  | cons q fs ih =>
    obtain ⟨k, o⟩ := q
    simp only [List.map_cons, List.nodup_cons] at hnodup
    rcases List.mem_cons.1 hp with rfl | hmem
    · -- the key's own field: present, or absent from the rest too
      cases o with
      | none =>
        refine List.lookup_eq_none_iff.2 fun q hq => bne_iff_ne.2 fun hkq => hnodup.1 ?_
        have hq' : q ∈ presentFields fs := by simpa [presentFields] using hq
        have hk : k = q.1 := hkq
        exact hk ▸ (presentFields_sublist fs).subset (List.mem_map_of_mem hq')
      | some v => simp [presentFields]
    · have hne : p.1 ≠ k := fun h => hnodup.1 (h ▸ List.mem_map_of_mem hmem)
      cases o with
      | none => exact ih hnodup.2 hmem
      | some v =>
        simp only [presentFields, List.filterMap_cons, Option.map_some, List.lookup_cons,
          beq_false_of_ne hne]
        exact ih hnodup.2 hmem

/-- Looking up the names of some fields one after another answers all their values, the
missing ones empty, when each name answers its own. -/
theorem mapM_names_eq_some {F : String → Option String} {gs : List (String × Option String)}
    (h : ∀ p ∈ gs, F p.1 = some (p.2.getD "")) :
    (gs.map Prod.fst).mapM F = some (gs.map fun p => p.2.getD "") := by
  induction gs with
  | nil => rfl
  | cons p gs ih =>
    rw [List.map_cons, List.mapM_cons, h p List.mem_cons_self,
      ih fun q hq => h q (List.mem_cons_of_mem _ hq)]
    rfl

/-- Completing the written fields gives back every value, the missing ones empty, when no
missing field is required. -/
theorem completeRecord_presentFields {shape : RecordShape} {fs : List (String × Option String)}
    (hnames : fs.map Prod.fst = shape.names) (hnodup : shape.names.Nodup)
    (hreq : ∀ p ∈ fs, p.2 = none → shape.required.contains p.1 = false) :
    completeRecord shape (presentFields fs) = some (fs.map fun p => p.2.getD "") := by
  unfold completeRecord
  rw [← hnames]
  rw [← hnames] at hnodup
  -- each name looks up its own value
  refine mapM_names_eq_some fun p hp => ?_
  rw [lookup_presentFields hnodup hp]
  obtain ⟨k, o⟩ := p
  cases o with
  | none =>
    have absent : k ∉ shape.required := fun h => by
      have optional := hreq _ hp rfl
      rw [List.contains_iff_mem.2 h] at optional
      cases optional
    simp [absent]
  | some v => rfl

/-- An object written from optional string fields reads back as all their values, the missing
ones empty, when the fields are the shape's, each named once, no missing one is required and
one at least is present. -/
theorem readRecord_objOpt {shape : RecordShape} {fs : List (String × Option String)}
    (hnames : fs.map Prod.fst = shape.names) (hnodup : shape.names.Nodup)
    (hreq : ∀ p ∈ fs, p.2 = none → shape.required.contains p.1 = false)
    (hsome : ∃ p ∈ fs, p.2.isSome) :
    readRecord shape (objOpt (fs.map fun p => (p.1, p.2.map .str))).write =
      some (fs.map fun p => p.2.getD "") := by
  have keys : ((presentFields fs).map Prod.fst).Nodup :=
    (presentFields_sublist fs).nodup (hnames ▸ hnodup)
  have hne : presentFields fs ≠ [] := by
    obtain ⟨⟨k, o⟩, hp, hs⟩ := hsome
    obtain ⟨v, rfl⟩ := Option.isSome_iff_exists.1 hs
    intro hnil
    have : (presentFields fs).lookup k = some v := lookup_presentFields (hnames ▸ hnodup) hp
    rw [hnil] at this
    cases this
  have known : ∀ p ∈ presentFields fs, shape.names.contains p.1 := by
    intro p hp
    rw [← hnames, List.contains_iff_mem]
    exact (presentFields_sublist fs).subset (List.mem_map_of_mem hp)
  rw [objOpt_strs, readRecord_obj hne known keys,
    completeRecord_presentFields hnames hnodup hreq]

/-- A value written only when it is not empty. -/
def nonEmpty (v : String) : Option String := if v.isEmpty then none else some v

@[simp] theorem nonEmpty_getD (v : String) : (nonEmpty v).getD "" = v := by
  unfold nonEmpty
  split
  · rename_i h
    simp only [String.isEmpty_iff] at h
    simp [h]
  · rfl

theorem map_nonEmpty (v : String) :
    (nonEmpty v).map Json.str = if v.isEmpty then none else some (.str v) := by
  unfold nonEmpty
  split <;> rfl

end Json

open Json

/-! ## Endpoints and descriptors -/

theorem Endpoint.toJson_eq (e : Endpoint) :
    e.toJson = objOpt ([("type", nonEmpty e.kind), ("address", some e.address),
      ("config", nonEmpty e.config), ("proto", nonEmpty e.proto)].map
        fun p => (p.1, p.2.map .str)) := by
  simp only [Endpoint.toJson, List.map_cons, List.map_nil, map_nonEmpty, Option.map_some]

theorem Endpoint.read?_text (e : Endpoint) : Endpoint.read? e.text = some e := by
  unfold Endpoint.read? Endpoint.text
  -- the address is always written, and it is the one required field
  rw [Endpoint.toJson_eq, readRecord_objOpt rfl (by decide) (by simp [Endpoint.shape])
    ⟨_, List.mem_cons_of_mem _ List.mem_cons_self, rfl⟩]
  simp

theorem Descriptor.toJson_eq (d : Descriptor) :
    d.toJson = objOpt ([("service", some d.service), ("zone", nonEmpty d.zone),
      ("type", nonEmpty d.kind), ("proto", nonEmpty d.proto),
      ("description", nonEmpty d.description),
      ("content_hash", nonEmpty d.contentHash)].map fun p => (p.1, p.2.map .str)) := by
  simp only [Descriptor.toJson, List.map_cons, List.map_nil, map_nonEmpty, Option.map_some]

theorem Descriptor.read?_text (d : Descriptor) : Descriptor.read? d.text = some d := by
  unfold Descriptor.read? Descriptor.text
  -- the service is always written, and no field is required
  rw [Descriptor.toJson_eq, readRecord_objOpt rfl (by decide) (by simp [Descriptor.shape])
    ⟨_, List.mem_cons_self, rfl⟩]
  simp

end ControlPlane
