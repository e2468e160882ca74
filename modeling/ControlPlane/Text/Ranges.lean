/-!
# Character classes as ranges

A class of characters given by inclusive ranges of code points in increasing order.
-/

namespace ControlPlane

namespace Text

def inRanges : List (Nat × Nat) → Nat → Bool
  | [], _ => false
  | (lo, hi) :: rest, c => if c < lo then false else if c ≤ hi then true else inRanges rest c

/-- The white space characters: tab to carriage return, space, next line, no-break space,
ogham space mark, the spaces U+2000 to U+200A, line and paragraph separators, narrow
no-break space, medium mathematical space and ideographic space. -/
def whiteSpaceRanges : List (Nat × Nat) :=
  [(0x9, 0xD), (0x20, 0x20), (0x85, 0x85), (0xA0, 0xA0), (0x1680, 0x1680), (0x2000, 0x200A),
   (0x2028, 0x2029), (0x202F, 0x202F), (0x205F, 0x205F), (0x3000, 0x3000)]

def isWhiteSpace (c : Char) : Bool := inRanges whiteSpaceRanges c.toNat

end Text

end ControlPlane
