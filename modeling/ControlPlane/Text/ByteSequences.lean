/-!
# Code point ranges as byte sequences

An automaton that reads UTF-8 bytes sees a range of code points as the set of their encodings.
That set is a union of a few products of byte ranges: the code points `80-7FF` are the
two-byte strings `[C2-DF][80-BF]`, the code points `800-FFF` the strings `E0 [A0-BF][80-BF]`,
and so on. `byteSequences lo hi` gives such products for the range `lo-hi`, in increasing
order, each a list of byte ranges, one range per byte.

A range is cut until every piece is a product:

1. the surrogates `D800-DFFF`, which have no encoding, are left out;
2. a piece is cut where the encoded width changes, after `7F`, `7FF` and `FFFF`;
3. a piece whose ends differ above the six bits a continuation byte carries is cut at the
   boundary of those bits, at the lowest such level first, until its first code point has
   all lower bits zero and its last all lower bits one.

A piece whose ends satisfy (3) at every level is exactly the product of the byte ranges
between the bytes of its two ends.
-/

namespace ControlPlane

namespace Text

def utf8Width (c : Nat) : Nat :=
  if c < 0x80 then 1 else if c < 0x800 then 2 else if c < 0x10000 then 3 else 4

def utf8Bytes (c : Nat) : List Nat :=
  if c < 0x80 then [c]
  else if c < 0x800 then [0xC0 + c / 64, 0x80 + c % 64]
  else if c < 0x10000 then [0xE0 + c / 4096, 0x80 + c / 64 % 64, 0x80 + c % 64]
  else [0xF0 + c / 262144, 0x80 + c / 4096 % 64, 0x80 + c / 64 % 64, 0x80 + c % 64]

def widthEnds : List Nat := [0x7F, 0x7FF, 0xFFFF]

/-- The sizes of the blocks of code points that share all bytes but the last one, two and
three. -/
def blockSizes : List Nat := [64, 4096, 262144]

/-- Where to cut a piece of one width so that it moves towards a product, if it is not one:
the last code point of the left part. -/
def productCut (lo hi : Nat) : List Nat → Option Nat
  | [] => none
  | size :: rest =>
    if lo / size != hi / size then
      if lo % size != 0 then some (lo / size * size + size - 1)
      else if hi % size != size - 1 then some (hi / size * size - 1)
      else productCut lo hi rest
    else productCut lo hi rest

/-- The products of byte ranges that encode the code points `lo-hi`, in increasing order.
`fuel` bounds the depth of cutting, which never exceeds eight. -/
def byteSequences : Nat → Nat → Nat → List (List (Nat × Nat))
  | 0, _, _ => []
  | fuel + 1, lo, hi =>
    if lo < 0xE000 && hi > 0xD7FF then
      byteSequences fuel lo 0xD7FF ++ byteSequences fuel 0xE000 hi
    else if lo > hi then []
    else
      match widthEnds.find? (fun m => lo ≤ m && m < hi) with
      | some m => byteSequences fuel lo m ++ byteSequences fuel (m + 1) hi
      | none =>
        if hi ≤ 0x7F then [[(lo, hi)]]
        else
          match productCut lo hi blockSizes with
          | some cut => byteSequences fuel lo cut ++ byteSequences fuel (cut + 1) hi
          | none => [(utf8Bytes lo).zip (utf8Bytes hi)]

def rangeSequences (r : Nat × Nat) : List (List (Nat × Nat)) :=
  byteSequences 16 r.1 r.2

end Text

end ControlPlane
