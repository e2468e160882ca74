import ControlPlane.Pattern.Syntax
import ControlPlane.Text.RangeText

/-!
# Classes as lists of ranges

Every class of characters is also a list of code point ranges, increasing, disjoint and not
touching, so that two classes with the same members have the same list. The compiled form of
a pattern is built from these lists.

Unions are merged range lists, a negation is the gaps between the ranges, and intersections and
differences are negations of unions. A class that ignores case holds, besides its own members,
every character that is the same letter up to case as one of them: the case folding table
links the members of each such set, and a set is taken whole when one of its links touches
the class.
-/

namespace ControlPlane

namespace Pattern

def interRanges (a b : List (Nat × Nat)) : List (Nat × Nat) :=
  Text.complementRanges (Text.unionRanges [Text.complementRanges a, Text.complementRanges b])

def diffRanges (a b : List (Nat × Nat)) : List (Nat × Nat) :=
  interRanges a (Text.complementRanges b)

/-- The links of the case folding table: pairs of characters that are the same letter up to
case. -/
def caseFoldLinks : List (Nat × Nat) :=
  Text.caseFoldRuns.flatMap fun (first, count, stride, offset) =>
    (List.range count).map fun i =>
      let c := first + i * stride
      (c, (Int.ofNat c + offset).toNat)

def foldedRanges (rs : List (Nat × Nat)) : List (Nat × Nat) :=
  let met := caseFoldLinks.filter fun (a, b) => Text.inRanges rs a || Text.inRanges rs b
  let extra := met.flatMap fun (a, _) => (Text.caseVariants a).map fun c => (c, c)
  Text.unionRanges [rs, extra]

/-- The members of a class as increasing ranges that do not touch. -/
def CharClass.toRanges : CharClass → List (Nat × Nat)
  | .ranges rs => Text.unionRanges [rs]
  | .digit => Text.unionRanges [Text.decimalDigitRanges]
  | .space => Text.unionRanges [Text.whiteSpaceRanges]
  | .word => Text.unionRanges [Text.wordCharRanges]
  | .union a b => Text.unionRanges [a.toRanges, b.toRanges]
  | .inter a b => interRanges a.toRanges b.toRanges
  | .diff a b => diffRanges a.toRanges b.toRanges
  | .symmDiff a b =>
    let x := a.toRanges
    let y := b.toRanges
    Text.unionRanges [diffRanges x y, diffRanges y x]
  | .negate a => Text.complementRanges a.toRanges
  | .folded a => foldedRanges a.toRanges

end Pattern

end ControlPlane
