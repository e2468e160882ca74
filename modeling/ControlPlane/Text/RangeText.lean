/-!
# Range texts

Large tables of character properties are kept as texts: code points in hexadecimal separated
by blanks, each entry either a range `lo-hi` (both ends included) or a single code point, in
increasing order and without overlaps, broken into lines of moderate length. Such a text is
cheap to read in and easy to compare with the character database it was taken from;
`decodeRanges` turns it into a list of ranges.

`unionRanges` and `complementRanges` combine range lists into increasing lists of disjoint
ranges again, so that a property made of several others (a group of general categories, the
characters of all versions up to one) is a list of the same shape.
-/

namespace ControlPlane

namespace Text

def maxCodePoint : Nat := 0x10FFFF

def hexDigit? (c : Char) : Option Nat :=
  if '0' ≤ c && c ≤ '9' then some (c.toNat - '0'.toNat)
  else if 'A' ≤ c && c ≤ 'F' then some (c.toNat - 'A'.toNat + 10)
  else if 'a' ≤ c && c ≤ 'f' then some (c.toNat - 'a'.toNat + 10)
  else none

def hexNumeral? (s : String) : Option Nat :=
  if s.isEmpty then none
  else s.toList.foldlM (fun acc c => (hexDigit? c).map fun d => 16 * acc + d) 0

/-- One entry of a range text: `lo-hi`, or a single code point `c` standing for `c-c`. -/
def decodeRange? (entry : String) : Option (Nat × Nat) :=
  match entry.splitOn "-" with
  | [c] => (hexNumeral? c).map fun n => (n, n)
  | [lo, hi] => do
    let a ← hexNumeral? lo
    let b ← hexNumeral? hi
    pure (a, b)
  | _ => none

def decodeRanges (text : String) : List (Nat × Nat) :=
  ((text.splitOn " ").filter (!·.isEmpty)).filterMap decodeRange?

def decodeRangeLines (lines : List String) : List (Nat × Nat) :=
  lines.flatMap decodeRanges

/-- Joins ranges sorted by their starts into disjoint ranges, merging those that overlap or
touch. -/
def coalesceRanges : List (Nat × Nat) → List (Nat × Nat)
  | [] => []
  | (lo, hi) :: rest => go lo hi rest
where
  /-- Extends the open range `lo-hi` while the next range starts inside it or right after. -/
  go (lo hi : Nat) : List (Nat × Nat) → List (Nat × Nat)
    | [] => [(lo, hi)]
    | (a, b) :: rest =>
      if a ≤ hi + 1 then go lo (max hi b) rest else (lo, hi) :: go a b rest

def unionRanges (parts : List (List (Nat × Nat))) : List (Nat × Nat) :=
  coalesceRanges (parts.flatten.mergeSort fun a b => a.1 ≤ b.1)

/-- The code points up to `maxCodePoint` outside increasing disjoint ranges. -/
def complementRanges (rs : List (Nat × Nat)) : List (Nat × Nat) :=
  go 0 rs
where
  /-- The gaps from `next` on, given the ranges that remain. -/
  go (next : Nat) : List (Nat × Nat) → List (Nat × Nat)
    | [] => if next ≤ maxCodePoint then [(next, maxCodePoint)] else []
    | (lo, hi) :: rest =>
      let gap := if next < lo then [(next, lo - 1)] else []
      gap ++ go (hi + 1) rest

end Text

end ControlPlane
