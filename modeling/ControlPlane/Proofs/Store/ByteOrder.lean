import ControlPlane.Proofs.Store.PrefixRange

/-!
# Keys in byte order

The store orders its keys as texts, character by character in code point order, while a reader
of the keys' UTF-8 bytes compares them byte by byte. The two orders agree. Of two characters,
the smaller one's encoding is smaller at a byte where both encodings still go on
(`utf8EncodeChar_append_lt`): lead bytes grow with the width of the encoding, and within one
width the bytes are the code point's digits, most significant first. So texts compare as their
bytes do, and a text starts another exactly when its bytes start the other's.

Read in byte order, a prefix read is exact (`prefix_scans_exact`): the end of a prefix range is
the text `"\x00"` or above the prefix, a key starts with the prefix exactly when it lies in the
range, and the read of a prefix on any reachable store answers the stored entries whose key
starts with it, ascending, with nothing cut off.

1. `utf8EncodeChar_cases`, `utf8EncodeChar_append_lt`, `not_prefix_of_utf8EncodeChar_lt`: one
   character.
2. `flatMap_utf8EncodeChar_lt_iff`, `flatMap_utf8EncodeChar_prefix_iff`: lists of characters.
3. `String.utf8Bytes` and its order lemmas: texts.
4. `prefix_iff_inPrefixRange`, `prefixEnd_above`, `prefix_scans_exact`: prefix reads.
-/

namespace ControlPlane

/-- The bytes of a character's UTF-8 encoding, by the range of its code point: one byte below
U+0080; above, a lead byte that carries the high bits, then six bits per continuation byte. -/
theorem utf8EncodeChar_cases (c : Char) :
    (c.toNat < 0x80 ∧ String.utf8EncodeChar c = [.ofNat c.toNat]) ∨
    (0x80 ≤ c.toNat ∧ c.toNat < 0x800 ∧
      String.utf8EncodeChar c = [.ofNat (c.toNat / 64 + 0xC0), .ofNat (c.toNat % 64 + 0x80)]) ∨
    (0x800 ≤ c.toNat ∧ c.toNat < 0x10000 ∧
      String.utf8EncodeChar c = [.ofNat (c.toNat / 4096 + 0xE0), .ofNat (c.toNat / 64 % 64 + 0x80),
        .ofNat (c.toNat % 64 + 0x80)]) ∨
    (0x10000 ≤ c.toNat ∧ c.toNat < 0x110000 ∧
      String.utf8EncodeChar c = [.ofNat (c.toNat / 262144 + 0xF0),
        .ofNat (c.toNat / 4096 % 64 + 0x80), .ofNat (c.toNat / 64 % 64 + 0x80),
        .ofNat (c.toNat % 64 + 0x80)]) := by
  have valid := Char.toNat_valid c
  have val : c.val.toNat = c.toNat := rfl
  unfold String.utf8EncodeChar
  dsimp only
  rw [val]
  -- the encoder reduces the lead digit modulo its width, which it never reaches
  split_ifs with one two three
  · exact .inl ⟨by omega, rfl⟩
  · refine .inr (.inl ⟨by omega, by omega, ?_⟩)
    rw [Nat.mod_eq_of_lt (by omega : c.toNat / 64 < 32)]
  · refine .inr (.inr (.inl ⟨by omega, by omega, ?_⟩))
    rw [Nat.mod_eq_of_lt (by omega : c.toNat / 4096 < 16)]
  · refine .inr (.inr (.inr ⟨by omega, by omega, ?_⟩))
    rw [Nat.mod_eq_of_lt (by omega : c.toNat / 262144 < 8)]

/-- Of two characters, the smaller one's encoding is below the other's at a byte where both
still go on: what follows either encoding does not matter. -/
theorem utf8EncodeChar_append_lt {c d : Char} (h : c < d) (A B : List UInt8) :
    String.utf8EncodeChar c ++ A < String.utf8EncodeChar d ++ B := by
  change c.toNat < d.toNat at h
  have byte : ∀ n, n < 256 → (UInt8.ofNat n).toNat = n := fun _ hn => UInt8.toNat_ofNat_of_lt' hn
  -- one case per pair of widths; a wider encoding has a greater lead byte
  rcases utf8EncodeChar_cases c with ⟨_, ec⟩ | ⟨_, _, ec⟩ | ⟨_, _, ec⟩ | ⟨_, _, ec⟩ <;>
  rcases utf8EncodeChar_cases d with ⟨_, ed⟩ | ⟨_, _, ed⟩ | ⟨_, _, ed⟩ | ⟨_, _, ed⟩ <;>
  rw [ec, ed] <;>
  simp (disch := omega) only [List.cons_append, List.nil_append, List.cons_lt_cons_iff,
    UInt8.lt_iff_toNat_lt, ← UInt8.toNat_inj, byte] <;>
  omega

/-- The encodings of two different characters never start one another, whatever follows
them. -/
theorem not_prefix_of_utf8EncodeChar_lt {c d : Char} (h : c < d) (A B : List UInt8) :
    ¬ String.utf8EncodeChar c ++ A <+: String.utf8EncodeChar d ++ B ∧
      ¬ String.utf8EncodeChar d ++ B <+: String.utf8EncodeChar c ++ A := by
  -- either way the longer side would be below itself
  constructor
  · rintro ⟨t, ht⟩
    have below := utf8EncodeChar_append_lt h (A ++ t) B
    rw [← ht, List.append_assoc] at below
    exact List.lt_irrefl _ below
  · rintro ⟨t, ht⟩
    have below := utf8EncodeChar_append_lt h A (B ++ t)
    rw [← List.append_assoc, ht] at below
    exact List.lt_irrefl _ below

/-- Two lists that start alike compare as what follows. -/
theorem append_lt_append_left_iff {α : Type} [LT α] [Std.Irrefl (· < · : α → α → Prop)]
    (l : List α) {a b : List α} : l ++ a < l ++ b ↔ a < b := by
  induction l with
  | nil => rfl
  | cons x l ih =>
    rw [List.cons_append, List.cons_append, List.cons_lt_cons_iff, ih]
    constructor
    · rintro (hxx | ⟨-, hab⟩)
      · exact absurd hxx (Std.Irrefl.irrefl x)
      · exact hab
    · exact fun hab => .inr ⟨rfl, hab⟩

/-- Lists of characters compare as their UTF-8 bytes do. -/
theorem flatMap_utf8EncodeChar_lt_iff :
    ∀ xs ys : List Char,
      xs.flatMap String.utf8EncodeChar < ys.flatMap String.utf8EncodeChar ↔ xs < ys
  | [], [] => by simp [List.lt_irrefl]
  | [], y :: ys => by
    have nonempty := String.utf8EncodeChar_ne_nil (c := y)
    simp only [List.flatMap_nil, List.flatMap_cons, List.nil_lt_cons, iff_true]
    obtain ⟨b, bs, hb⟩ := List.exists_cons_of_ne_nil nonempty
    rw [hb, List.cons_append]
    exact List.nil_lt_cons _ _
  | x :: xs, [] => by
    simp only [List.flatMap_nil, List.not_lt_nil]
  | x :: xs, y :: ys => by
    rw [List.flatMap_cons, List.flatMap_cons, List.cons_lt_cons_iff]
    rcases lt_trichotomy x y with hlt | rfl | hgt
    · -- the first characters differ: their bytes decide
      exact iff_of_true (utf8EncodeChar_append_lt hlt _ _) (.inl hlt)
    · rw [append_lt_append_left_iff, flatMap_utf8EncodeChar_lt_iff xs ys]
      constructor
      · exact fun h => .inr ⟨rfl, h⟩
      · rintro (hxx | ⟨-, h⟩)
        · exact absurd hxx (lt_irrefl x)
        · exact h
    · have above := utf8EncodeChar_append_lt hgt (ys.flatMap String.utf8EncodeChar)
        (xs.flatMap String.utf8EncodeChar)
      refine iff_of_false (List.lt_asymm above) ?_
      rintro (hxy | ⟨hxy, -⟩)
      · exact lt_asymm hgt hxy
      · exact lt_irrefl x (hxy ▸ hgt)

/-- A list of characters starts another exactly when its UTF-8 bytes start the other's. -/
theorem flatMap_utf8EncodeChar_prefix_iff :
    ∀ xs ys : List Char,
      xs.flatMap String.utf8EncodeChar <+: ys.flatMap String.utf8EncodeChar ↔ xs <+: ys
  | [], ys => by simp
  | x :: xs, [] => by
    have nonempty := String.utf8EncodeChar_ne_nil (c := x)
    simp [nonempty]
  | x :: xs, y :: ys => by
    rw [List.flatMap_cons, List.flatMap_cons, List.cons_prefix_cons]
    rcases lt_trichotomy x y with hlt | rfl | hgt
    · exact iff_of_false (not_prefix_of_utf8EncodeChar_lt hlt _ _).1
        fun ⟨hxy, _⟩ => lt_irrefl x (hxy ▸ hlt)
    · rw [List.prefix_append_right_inj, flatMap_utf8EncodeChar_prefix_iff xs ys]
      simp
    · exact iff_of_false (not_prefix_of_utf8EncodeChar_lt hgt _ _).2
        fun ⟨hxy, _⟩ => lt_irrefl x (hxy ▸ hgt)

/-- The UTF-8 bytes of a text, the order in which byte-wise comparisons see it. -/
def String.utf8Bytes (s : String) : List UInt8 := s.toUTF8.data.toList

theorem String.utf8Bytes_eq (s : String) :
    String.utf8Bytes s = s.toList.flatMap String.utf8EncodeChar := by
  rw [String.utf8Bytes, String.toUTF8_eq_toByteArray, ← String.utf8Encode_toList]
  exact List.toList_data_toByteArray

theorem String.lt_iff_utf8Bytes_lt {a b : String} :
    a < b ↔ String.utf8Bytes a < String.utf8Bytes b := by
  rw [String.utf8Bytes_eq, String.utf8Bytes_eq, flatMap_utf8EncodeChar_lt_iff]
  rfl

theorem String.le_iff_utf8Bytes_le {a b : String} :
    a ≤ b ↔ String.utf8Bytes a ≤ String.utf8Bytes b :=
  not_congr String.lt_iff_utf8Bytes_lt

theorem String.prefix_iff_utf8Bytes_prefix {p k : String} :
    p.toList <+: k.toList ↔ String.utf8Bytes p <+: String.utf8Bytes k := by
  rw [String.utf8Bytes_eq, String.utf8Bytes_eq, flatMap_utf8EncodeChar_prefix_iff]

/-! ## Prefix reads in byte order -/

/-- A key starts with `p` exactly when it is from `p` on and, unless `p` has no end, below the
end of `p`. -/
theorem prefix_iff_inPrefixRange (p k : String) :
    p.toList <+: k.toList ↔ p ≤ k ∧ (prefixEnd p = "\x00" ∨ k < prefixEnd p) := by
  rw [isPrefix_iff_inPrefixRange, prefixEnd_eq]
  refine and_congr Iff.rfl ?_
  cases hend : prefixEndChars p.toList with
  | none => simp
  | some e =>
    -- a computed end is never the text that stands for the end of the keyspace
    have notNul : String.ofList e ≠ "\x00" := fun heq =>
      (prefixEndChars_above hend).2 (by simpa using congrArg String.toList heq)
    simp only [Option.some.injEq, forall_eq', notNul, false_or]
    show k.toList < e ↔ k.toList < (String.ofList e).toList
    rw [String.toList_ofList]

/-- The end of a prefix range is the text `"\x00"`, or a text above the prefix. -/
theorem prefixEnd_above (p : String) : prefixEnd p = "\x00" ∨ p < prefixEnd p := by
  rw [prefixEnd_eq]
  cases hend : prefixEndChars p.toList with
  | none => exact .inl rfl
  | some e =>
    right
    show p.toList < (String.ofList e).toList
    rw [String.toList_ofList]
    exact (prefixEndChars_above hend).1

/-- The read of the keys that start with a text: exactly the stored entries whose key starts
with it, ascending by key, and nothing cut off. -/
theorem Store.range_startingWith_sorted {s : Store} (hs : s.Consistent) (p : String) :
    (s.range (RangeRequest.startingWith p)).kvs =
        s.entries.filter (fun kv => p.toList.isPrefixOf kv.key.toList) ∧
      ((s.range (RangeRequest.startingWith p)).kvs.map (·.key)).Pairwise (· < ·) ∧
      (s.range (RangeRequest.startingWith p)).more = false := by
  have read := Store.range_startingWith s p
  refine ⟨read, ?_, rfl⟩
  rw [read, List.pairwise_map]
  exact filter_sorted hs.entries_sorted

/-- Prefix scans are exact, in UTF-8 byte order. The end of every prefix range is `"\x00"` or
above the prefix; a key starts with the prefix exactly when it is from the prefix on and, unless
the end is `"\x00"`, below the end; so on every reachable store the read of a prefix answers
exactly the stored entries whose key starts with it, in ascending key order, with `more`
false. -/
theorem prefix_scans_exact {s : Store} (hs : Store.Reachable s) (p : String) :
    (prefixEnd p = "\x00" ∨ String.utf8Bytes p < String.utf8Bytes (prefixEnd p)) ∧
    (∀ k : String, String.utf8Bytes p <+: String.utf8Bytes k ↔
      String.utf8Bytes p ≤ String.utf8Bytes k ∧
        (prefixEnd p = "\x00" ∨ String.utf8Bytes k < String.utf8Bytes (prefixEnd p))) ∧
    (s.range (RangeRequest.startingWith p)).kvs =
        s.entries.filter (fun kv => (String.utf8Bytes p).isPrefixOf (String.utf8Bytes kv.key)) ∧
    ((s.range (RangeRequest.startingWith p)).kvs.map (·.key)).Pairwise
        (fun a b => String.utf8Bytes a < String.utf8Bytes b) ∧
    (s.range (RangeRequest.startingWith p)).more = false := by
  obtain ⟨read, sorted, whole⟩ := Store.range_startingWith_sorted hs.consistent p
  -- every comparison of texts is the comparison of their bytes
  refine ⟨?_, fun k => ?_, ?_, ?_, whole⟩
  · rw [← String.lt_iff_utf8Bytes_lt]
    exact prefixEnd_above p
  · rw [← String.prefix_iff_utf8Bytes_prefix, ← String.le_iff_utf8Bytes_le,
      ← String.lt_iff_utf8Bytes_lt]
    exact prefix_iff_inPrefixRange p k
  · rw [read]
    refine List.filter_congr fun kv _ => ?_
    rw [Bool.eq_iff_iff, List.isPrefixOf_iff_prefix, List.isPrefixOf_iff_prefix]
    exact String.prefix_iff_utf8Bytes_prefix
  · exact sorted.imp String.lt_iff_utf8Bytes_lt.1

/-- On a store holding `/a/x`, `/a0` and `/b`, the read of prefix `/a/` finds `/a/x` alone. -/
theorem prefix_scan_of_three_keys :
    let s := (Store.Call.put 0 "/b" "3" .detach).apply ((Store.Call.put 0 "/a0" "2" .detach).apply
      ((Store.Call.put 0 "/a/x" "1" .detach).apply (Store.make 4 4)))
    Store.Reachable s ∧
    (prefixEnd "/a/" = "\x00" ∨ String.utf8Bytes "/a/" < String.utf8Bytes (prefixEnd "/a/")) ∧
    (∀ k : String, String.utf8Bytes "/a/" <+: String.utf8Bytes k ↔
      String.utf8Bytes "/a/" ≤ String.utf8Bytes k ∧
        (prefixEnd "/a/" = "\x00" ∨ String.utf8Bytes k < String.utf8Bytes (prefixEnd "/a/"))) ∧
    (s.range (RangeRequest.startingWith "/a/")).kvs =
        s.entries.filter (fun kv => (String.utf8Bytes "/a/").isPrefixOf (String.utf8Bytes kv.key)) ∧
    ((s.range (RangeRequest.startingWith "/a/")).kvs.map (·.key)).Pairwise
        (fun a b => String.utf8Bytes a < String.utf8Bytes b) ∧
    (s.range (RangeRequest.startingWith "/a/")).more = false :=
  have hs : Store.Reachable _ := .call _ (.call _ (.call _ (.make 4 4)))
  ⟨hs, prefix_scans_exact hs "/a/"⟩

example : ((((Store.Call.put 0 "/b" "3" .detach).apply ((Store.Call.put 0 "/a0" "2" .detach).apply
      ((Store.Call.put 0 "/a/x" "1" .detach).apply (Store.make 4 4)))).range
        (RangeRequest.startingWith "/a/")).kvs.map (·.key)) = ["/a/x"] := by decide +kernel

end ControlPlane
