import ControlPlane.Pattern.ClassRanges
import ControlPlane.Text.ByteSequences

/-!
# The normal form a pattern is compiled from

Before a pattern is compiled into an automaton it is put into a normal form, its shape. The
form decides how large the automaton is, so it follows fixed rules:

1. a class of one character is that character, and a class of none is a class that never
   matches;
2. a sequence is flat, holds no empty items, and joins neighbouring literals into one; a
   sequence of one item is that item, and of none the empty pattern;
3. alternatives are flat; alternatives that are all single characters, or all classes, are one
   class; alternatives that are all sequences beginning with the same items have those items
   taken out in front of the rest;
4. a repetition of something that only matches the empty text repeats it at most once; a
   repetition exactly zero times is empty, and exactly once is its body.

A capturing group keeps its number, so that two groups are never the same item.

Each shape has a least and a greatest length in bytes of the texts it matches (none when it
matches nothing, or no greatest when it is unbounded), and may be anchored at the start or the
end of the text: an automaton for a shape anchored at the start needs no loop in front to
find a match further on.
-/

namespace ControlPlane

namespace Pattern

/-- A pattern in the normal form it is compiled from. -/
inductive Shape where
  /-- Matches the empty text. -/
  | empty
  /-- These characters one after the other; at least one. -/
  | literal (chars : List Nat)
  /-- One character of a class, given by increasing ranges that do not touch; with no range
  it never matches. -/
  | cls (ranges : List (Nat × Nat))
  /-- A condition on the position. -/
  | look (l : Look)
  /-- The body at least `min` and at most `max` times. -/
  | rep (body : Shape) (min : Nat) (max : Option Nat) (greedy : Bool)
  /-- The capturing group of a number. -/
  | capture (index : Nat) (body : Shape)
  /-- Two items or more one after the other. -/
  | concat (items : List Shape)
  /-- One of two branches or more. -/
  | alt (branches : List Shape)
  deriving Inhabited

def wordMax : Nat := Nat.pow 2 64 - 1

def satAdd (a b : Nat) : Nat := min (a + b) wordMax

def satMul (a b : Nat) : Nat := min (a * b) wordMax

def checkedAdd (a b : Nat) : Option Nat := if a + b ≤ wordMax then some (a + b) else none

def checkedMul (a b : Nat) : Option Nat := if a * b ≤ wordMax then some (a * b) else none

def byteLength (cs : List Nat) : Nat := cs.foldl (fun n c => n + Text.utf8Width c) 0

mutual

/-- Whether two shapes are the same item. Two capturing groups are the same only when they are
one group. -/
def Shape.same : Shape → Shape → Bool
  | .empty, .empty => true
  | .literal a, .literal b => a == b
  | .cls a, .cls b => a == b
  | .look a, .look b => a == b
  | .rep a lo hi g, .rep b lo' hi' g' => lo == lo' && hi == hi' && g == g' && Shape.same a b
  | .capture i a, .capture j b => i == j && Shape.same a b
  | .concat xs, .concat ys => Shape.sameAll xs ys
  | .alt xs, .alt ys => Shape.sameAll xs ys
  | _, _ => false

def Shape.sameAll : List Shape → List Shape → Bool
  | [], [] => true
  | x :: xs, y :: ys => Shape.same x y && Shape.sameAll xs ys
  | _, _ => false

end

mutual

/-- The least number of bytes of a text the shape matches; none when it matches nothing. -/
def Shape.minLen : Shape → Option Nat
  | .empty => some 0
  | .literal cs => some (byteLength cs)
  | .cls [] => none
  | .cls ((lo, _) :: _) => some (Text.utf8Width lo)
  | .look _ => some 0
  | .rep b lo _ _ => (Shape.minLen b).map fun m => satMul m lo
  | .capture _ b => Shape.minLen b
  | .concat items => Shape.minLenSeq items
  | .alt bs => Shape.minLenAlt bs

/-- The least length of items one after the other. -/
def Shape.minLenSeq : List Shape → Option Nat
  | [] => some 0
  | x :: rest =>
    match Shape.minLen x, Shape.minLenSeq rest with
    | some a, some b => some (satAdd a b)
    | _, _ => none

/-- The least length of any of the branches. -/
def Shape.minLenAlt : List Shape → Option Nat
  | [] => none
  | [x] => Shape.minLen x
  | x :: rest =>
    match Shape.minLen x, Shape.minLenAlt rest with
    | some a, some b => some (min a b)
    | _, _ => none

end

mutual

/-- The greatest number of bytes of a text the shape matches; none when there is no bound or it
matches nothing. -/
def Shape.maxLen : Shape → Option Nat
  | .empty => some 0
  | .literal cs => some (byteLength cs)
  | .cls rs => rs.getLast?.map fun r => Text.utf8Width r.2
  | .look _ => some 0
  | .rep b _ hi _ =>
    match hi, Shape.maxLen b with
    | some h, some m => checkedMul m h
    | _, _ => none
  | .capture _ b => Shape.maxLen b
  | .concat items => Shape.maxLenSeq items
  | .alt bs => Shape.maxLenAlt bs

/-- The greatest length of items one after the other. -/
def Shape.maxLenSeq : List Shape → Option Nat
  | [] => some 0
  | x :: rest =>
    match Shape.maxLen x, Shape.maxLenSeq rest with
    | some a, some b => checkedAdd a b
    | _, _ => none

/-- The greatest length of any of the branches. -/
def Shape.maxLenAlt : List Shape → Option Nat
  | [] => some 0
  | x :: rest =>
    match Shape.maxLen x, Shape.maxLenAlt rest with
    | some a, some b => some (max a b)
    | _, _ => none

end

mutual

/-- Whether every match of the shape starts with the condition `c`, so that the condition
holds where the match starts. -/
def Shape.leadsWith (c : Look) : Shape → Bool
  | .look l => l == c
  | .rep b lo _ _ => lo > 0 && Shape.leadsWith c b
  | .capture _ b => Shape.leadsWith c b
  | .concat items => Shape.leadsWithSeq c items
  | .alt bs => !bs.isEmpty && Shape.leadsWithAll c bs
  | _ => false

/-- Whether the condition leads items one after the other: it leads one of the first items up
to the first that can match more than the empty text. -/
def Shape.leadsWithSeq (c : Look) : List Shape → Bool
  | [] => false
  | x :: rest => Shape.leadsWith c x || (Shape.maxLen x == some 0 && Shape.leadsWithSeq c rest)

def Shape.leadsWithAll (c : Look) : List Shape → Bool
  | [] => true
  | x :: rest => Shape.leadsWith c x && Shape.leadsWithAll c rest

end

mutual

/-- Whether every match of the shape ends with the condition `c`. -/
def Shape.trailsWith (c : Look) : Shape → Bool
  | .look l => l == c
  | .rep b lo _ _ => lo > 0 && Shape.trailsWith c b
  | .capture _ b => Shape.trailsWith c b
  | .concat items => Shape.trailsWithSeq c items
  | .alt bs => !bs.isEmpty && Shape.trailsWithAll c bs
  | _ => false

/-- Whether the condition ends items one after the other: it ends one of the last items back
to the last that can match more than the empty text. -/
def Shape.trailsWithSeq (c : Look) : List Shape → Bool
  | [] => false
  | x :: rest =>
    Shape.trailsWithSeq c rest ||
      (rest.all (fun y => Shape.maxLen y == some 0) && Shape.trailsWith c x)

def Shape.trailsWithAll (c : Look) : List Shape → Bool
  | [] => true
  | x :: rest => Shape.trailsWith c x && Shape.trailsWithAll c rest

end

mutual

/-- The number of nodes of a shape. -/
def Shape.weight : Shape → Nat
  | .rep b _ _ _ => Shape.weight b + 1
  | .capture _ b => Shape.weight b + 1
  | .concat items => Shape.weightAll items + 1
  | .alt bs => Shape.weightAll bs + 1
  | _ => 1

def Shape.weightAll : List Shape → Nat
  | [] => 0
  | x :: rest => Shape.weight x + Shape.weightAll rest

end

def Shape.ofRanges (rs : List (Nat × Nat)) : Shape :=
  match rs with
  | [(lo, hi)] => if lo = hi then .literal [lo] else .cls rs
  | _ => .cls rs

/-- Puts the characters gathered so far after the items built so far, which are kept last
first. -/
def flushLiteral (done : List Shape) (pending : List Nat) : List Shape :=
  if pending.isEmpty then done else .literal pending :: done

def pushItem (st : List Shape × List Nat) : Shape → List Shape × List Nat
  | .literal cs => (st.1, st.2 ++ cs)
  | .empty => st
  | x => (x :: flushLiteral st.1 st.2, [])

/-- The shape of items one after the other. -/
def Shape.sequence (items : List Shape) : Shape :=
  let st := items.foldl (fun st x => match x with
    | .concat inner => inner.foldl pushItem st
    | x => pushItem st x) ([], [])
  match (flushLiteral st.1 st.2).reverse with
  | [] => .empty
  | [one] => one
  | many => .concat many

def singleChars : List Shape → Option (List Nat)
  | [] => some []
  | .literal [c] :: rest => (singleChars rest).map (c :: ·)
  | _ => none

def classMembers : List Shape → Option (List (Nat × Nat))
  | [] => some []
  | .cls rs :: rest => (classMembers rest).map fun acc => Text.unionRanges [rs, acc]
  | _ => none

def commonItems : List Shape → List Shape → List Shape
  | x :: xs, y :: ys => if Shape.same x y then x :: commonItems xs ys else []
  | _, _ => []

/-- The items every branch begins with, when all branches are sequences. -/
def sharedLead (branches : List Shape) : Option (List Shape) :=
  match branches with
  | .concat first :: rest =>
    rest.foldlM (fun lead b => match b with
      | .concat items => some (commonItems lead items)
      | _ => none) first
  | _ => none

/-- The shape of alternatives, given a bound on how often items are taken out in front;
each time takes at least one item off every branch. -/
def Shape.choiceWith : Nat → List Shape → Shape
  | fuel, branches =>
    let flat := branches.flatMap fun | .alt bs => bs | b => [b]
    match flat with
    | [] => .cls []
    | [one] => one
    | _ =>
      match singleChars flat with
      | some cs => Shape.ofRanges (Text.unionRanges [cs.map fun c => (c, c)])
      | none =>
        match classMembers flat with
        | some rs => Shape.ofRanges rs
        | none =>
          match fuel, sharedLead flat with
          | fuel + 1, some lead@(_ :: _) =>
            let n := lead.length
            let rests := flat.map fun | .concat items => Shape.sequence (items.drop n) | b => b
            Shape.sequence (lead ++ [Shape.choiceWith fuel rests])
          | _, _ => .alt flat

def Shape.choice (branches : List Shape) : Shape :=
  Shape.choiceWith (Shape.weightAll branches) branches

/-- The shape of a repetition. -/
def Shape.repeat (body : Shape) (lo : Nat) (hi : Option Nat) (greedy : Bool) : Shape :=
  let (lo, hi) :=
    if Shape.maxLen body == some 0 then (min lo 1, some ((hi.map (min · 1)).getD 1))
    else (lo, hi)
  if lo = 0 && hi == some 0 then .empty
  else if lo = 1 && hi == some 1 then body
  else .rep body lo hi greedy

mutual

/-- The shape of a parsed pattern, numbering capturing groups from `next` on in the order they
open; also gives the next number left. -/
def Node.shapeFrom : Node → Nat → Shape × Nat
  | .empty, k => (.empty, k)
  | .chars cls, k => (Shape.ofRanges cls.toRanges, k)
  | .look l, k => (.look l, k)
  | .seq items, k =>
    let (xs, k) := Node.shapesFrom items k
    (Shape.sequence xs, k)
  | .alt bs, k =>
    let (xs, k) := Node.shapesFrom bs k
    (Shape.choice xs, k)
  | .rep b lo hi g, k =>
    let (x, k) := Node.shapeFrom b k
    (Shape.repeat x lo hi g, k)
  | .capture b, k =>
    let (x, k') := Node.shapeFrom b (k + 1)
    (.capture k x, k')

/-- The shapes of parsed patterns one after the other. -/
def Node.shapesFrom : List Node → Nat → List Shape × Nat
  | [], k => ([], k)
  | n :: rest, k =>
    let (x, k) := Node.shapeFrom n k
    let (xs, k) := Node.shapesFrom rest k
    (x :: xs, k)

end

def Node.shape (n : Node) : Shape := (Node.shapeFrom n 1).1

end Pattern

end ControlPlane
