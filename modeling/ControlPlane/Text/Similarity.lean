/-!
# Similarity of words

The Jaro similarity of two words, kept as an exact fraction, and the words of a list close
enough to a given one to be offered as a correction.

Two characters match when they are equal and no further apart than half the longer word's
length, less one; each character of the second word matches at most one of the first, taken
left to right. With `m` matches, of which `t` pairs stand in a different order, the similarity
is `(m / |a| + m / |b| + (m - t) / m) / 3`; two empty words are alike, and a word is nothing
like the empty word.
-/

namespace ControlPlane

/-- A similarity as an exact fraction `num / den`, with `den` positive. -/
structure Likeness where
  num : Nat
  den : Nat
  deriving Inhabited

namespace Likeness

def le (a b : Likeness) : Bool := a.num * b.den ≤ b.num * a.den

def isClose (a : Likeness) : Bool := 7 * a.den < 10 * a.num

end Likeness

/-- Marks the first unmarked position `j` in `[lo, hi)` of `b` that holds `c`, counting
positions from `j`; none when there is no such position. -/
def markFirst (c : Char) (lo hi : Nat) : Nat → List Char → List Bool → Option (List Bool)
  | j, x :: xs, f :: fs =>
    if hi ≤ j then none
    else if lo ≤ j && x == c && !f then some (true :: fs)
    else (markFirst c lo hi (j + 1) xs fs).map (f :: ·)
  | _, _, _ => none

/-- The matched characters of `a` against `b`, from position `i` of `a` on: the marks of `a`
and the marks of `b`. -/
def markMatches (b : List Char) (window : Nat) :
    Nat → List Char → List Bool → List Bool × List Bool
  | _, [], marks => ([], marks)
  | i, c :: cs, marks =>
    match markFirst c (i - window) (min b.length (i + window + 1)) 0 b marks with
    | some marks' =>
      let (rest, final) := markMatches b window (i + 1) cs marks'
      (true :: rest, final)
    | none =>
      let (rest, final) := markMatches b window (i + 1) cs marks
      (false :: rest, final)

def marked (cs : List Char) (marks : List Bool) : List Char :=
  (cs.zip marks).filterMap fun (c, f) => if f then some c else none

/-- The Jaro similarity of two words. -/
def jaro (a b : String) : Likeness :=
  let xs := a.toList
  let ys := b.toList
  if xs.isEmpty && ys.isEmpty then ⟨1, 1⟩
  else if xs.isEmpty || ys.isEmpty then ⟨0, 1⟩
  else
    let window := max xs.length ys.length / 2 - 1
    let (ma, mb) := markMatches ys window 0 xs (ys.map fun _ => false)
    let left := marked xs ma
    let right := marked ys mb
    let m := left.length
    if m = 0 then ⟨0, 1⟩
    else
      let t := ((left.zip right).filter fun (x, y) => x != y).length / 2
      let la := xs.length
      let lb := ys.length
      ⟨m * lb * m + m * la * m + (m - t) * la * lb, 3 * la * lb * m⟩

/-- The candidates close to a word, least similar first; equally similar ones keep their
order. -/
def similarWords (word : String) (candidates : List String) : List String :=
  let scored := candidates.filterMap fun c =>
    let s := jaro word c
    if s.isClose then some (s, c) else none
  (scored.mergeSort fun x y => x.1.le y.1).map (·.2)

def closestWord (word : String) (candidates : List String) : Option String :=
  (similarWords word candidates).getLast?

end ControlPlane
