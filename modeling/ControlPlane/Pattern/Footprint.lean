import ControlPlane.Pattern.Shape
import Std.Data.HashMap

/-!
# The size of a compiled pattern

A pattern is compiled from its shape into two automata over bytes, one that reads forwards and
one that reads backwards, and a pattern whose automaton would take more than `sizeLimit`
bytes is refused. This module counts what the compiler adds, state by state, and stops as soon
as the count passes the limit.

Every state takes `stateBytes`; a choice between alternatives takes `choiceBytes` more for each
alternative it links to, and a state that tests ranges of bytes takes `rangeBytes` more for
each range. The states are numbered in the order they are added, and the numbers count:
the compiler keeps a small table of the states it built for a class of characters, indexed by
a hash of what the state tests and where it leads, and builds a state again when another
one took its place in the table.

The forward automaton is:

* unless every match starts at the start of the text, a loop in front that skips any byte;
* the states of the shape between the two states of the group that holds the whole match;
* the state that accepts.

A class of ASCII characters is one state that tests its ranges, with a state after it. A
larger class is compiled from its byte sequences, sorted, as a tree of states whose equal
subtrees are shared. A literal is one state a byte. A sequence links its items one after the
other; alternatives are a choice between their branches, which meet in an empty state; a
repetition is copies of its body with choices between them, and a loop when it is unbounded.

The backward automaton has no states for groups, reads sequences and literals last item
first, is anchored when every match ends at the end of the text, and compiles a larger class
as one state a byte of each byte sequence, sharing the states of sequences that begin alike.
-/

namespace ControlPlane

namespace Pattern

def sizeLimit : Nat := 10 * 1048576

def stateBytes : Nat := 32

def rangeBytes : Nat := 8

def choiceBytes : Nat := 4

/-- An automaton under construction, as far as its size goes: the number of its states, which
is also the number the next state gets, and the bytes they take. -/
structure Tally where
  states : Nat := 0
  bytes : Nat := 0
  deriving Inhabited

abbrev Counted (α : Type) := Except Unit α

namespace Tally

def add (t : Tally) (ranges : Nat := 0) : Counted Tally :=
  let t := { states := t.states + 1, bytes := t.bytes + stateBytes + ranges * rangeBytes }
  if t.bytes > sizeLimit then .error () else .ok t

/-- Adds `n` states that each test one byte. -/
def addMany (t : Tally) : Nat → Counted Tally
  | 0 => .ok t
  | n + 1 =>
    match t.add with
    | .error e => .error e
    | .ok t => addMany t n

/-- Links a state to the next: a choice takes room for the new alternative, other states
have room for their one link already. -/
def link (t : Tally) (fromChoice : Bool) : Counted Tally :=
  if fromChoice then
    let t := { t with bytes := t.bytes + choiceBytes }
    if t.bytes > sizeLimit then .error () else .ok t
  else .ok t

end Tally

abbrev Piece := Bool

/-- Compiles `n` more copies of a piece, each linked after the one before; `prev` tells how
the last copy so far ends. -/
def copies (piece : Tally → Counted (Piece × Tally)) :
    Nat → Piece → Tally → Counted (Piece × Tally)
  | 0, prev, t => .ok (prev, t)
  | n + 1, prev, t =>
    match piece t with
    | .error e => .error e
    | .ok (p, t) =>
      match t.link prev with
      | .error e => .error e
      | .ok t => copies piece n p t

/-- Compiles `n` optional copies of a piece, each behind a choice that may skip to the end;
`prev` tells how the last copy so far ends. -/
def optionalCopies (piece : Tally → Counted (Piece × Tally)) :
    Nat → Piece → Tally → Counted (Piece × Tally)
  | 0, prev, t => .ok (prev, t)
  | n + 1, prev, t =>
    match t.add with
    | .error e => .error e
    | .ok t =>
      match piece t with
      | .error e => .error e
      | .ok (p, t) =>
        match t.link prev >>= (·.link true) >>= (·.link true) with
        | .error e => .error e
        | .ok t => optionalCopies piece n p t

/-- Compiles exactly `n` copies of a body, each linked after the one before, or an empty state
for none. -/
def exactly (body : Tally → Counted (Piece × Tally)) (n : Nat) (t : Tally) :
    Counted (Piece × Tally) :=
  match n with
  | 0 => do return (false, ← t.add)
  | n + 1 =>
    match body t with
    | .error e => .error e
    | .ok (p, t) => copies body n p t

def hashStart : UInt64 := 14695981039346656037

def hashPrime : UInt64 := 1099511628211

def hashMix (h : UInt64) (x : Nat) : UInt64 := (h ^^^ x.toUInt64) * hashPrime

def transitionSlot (size : Nat) (ts : List (Nat × Nat × Nat)) : Nat :=
  (ts.foldl (fun h (lo, hi, next) => hashMix (hashMix (hashMix h lo) hi) next) hashStart
    % size.toUInt64).toNat

/-- A node of the byte tree of a class still being built: its finished transitions, and the
range of the transition whose end is not known yet. -/
structure OpenNode where
  done : List (Nat × Nat × Nat) := []
  pending : Option (Nat × Nat) := none
  deriving Inhabited

/-- The byte tree of a class being built: the automaton so far, the state every byte sequence
ends in, the path of open nodes from the root, and the table of built states by slot. -/
structure TreeBuild where
  tally : Tally
  target : Nat
  path : Array OpenNode
  table : Std.HashMap Nat (List (Nat × Nat × Nat) × Nat)

def treeSlots : Nat := 10000

namespace TreeBuild

/-- Builds a state with these transitions and puts it in the table at a slot. -/
def build (b : TreeBuild) (ts : List (Nat × Nat × Nat)) (slot : Nat) :
    Counted (Nat × TreeBuild) :=
  match b.tally.add ts.length with
  | .error e => .error e
  | .ok t =>
    .ok (b.tally.states, { b with tally := t, table := b.table.insert slot (ts, b.tally.states) })

def intern (b : TreeBuild) (ts : List (Nat × Nat × Nat)) : Counted (Nat × TreeBuild) :=
  let slot := transitionSlot treeSlots ts
  match b.table.get? slot with
  | some (key, id) => if key == ts then .ok (id, b) else b.build ts slot
  | none => b.build ts slot

def closeNode (n : OpenNode) (next : Nat) : OpenNode :=
  match n.pending with
  | some (lo, hi) => { done := n.done ++ [(lo, hi, next)], pending := none }
  | none => n

/-- Builds the open nodes above the first `keep + 1` of the path, deepest first, and closes
the pending transition of the last node kept towards them. -/
def compileFrom (b : TreeBuild) (keep : Nat) : Counted TreeBuild :=
  go b.path.size b b.target
where
  /-- Builds nodes while more than `keep + 1` are open; `next` is the state the pending
  transition of the deepest open node leads to. -/
  go : Nat → TreeBuild → Nat → Counted TreeBuild
    | fuel + 1, b, next =>
      if keep + 1 < b.path.size then
        let node := closeNode (b.path.back?.getD {}) next
        match { b with path := b.path.pop }.intern node.done with
        | .error e => .error e
        | .ok (id, b) => go fuel b id
      else .ok { b with path := b.path.modify (b.path.size - 1) (closeNode · next) }
    | 0, b, next => .ok { b with path := b.path.modify (b.path.size - 1) (closeNode · next) }

def sharedDepth (path : Array OpenNode) (seq : List (Nat × Nat)) : Nat :=
  ((path.toList.zip seq).takeWhile fun (n, r) => n.pending == some r).length

/-- Adds one byte sequence, which comes after all sequences added before. -/
def addSequence (b : TreeBuild) (seq : List (Nat × Nat)) : Counted TreeBuild :=
  let keep := sharedDepth b.path seq
  match b.compileFrom keep with
  | .error e => .error e
  | .ok b =>
    match seq.drop keep with
    | [] => .ok b
    | first :: rest =>
      let path := b.path.modify (b.path.size - 1) fun n => { n with pending := some first }
      .ok { b with path := rest.foldl (fun p r => p.push { pending := some r }) path }

/-- Builds what is left of the tree, the root last. -/
def finish (b : TreeBuild) : Counted Tally :=
  match b.compileFrom 0 with
  | .error e => .error e
  | .ok b =>
    match { b with path := #[] }.intern (((b.path[0]?).map OpenNode.done).getD []) with
    | .error e => .error e
    | .ok (_, b) => .ok b.tally

end TreeBuild

def classSequences (rs : List (Nat × Nat)) : List (List (Nat × Nat)) :=
  rs.flatMap Text.rangeSequences

def asciiOnly (rs : List (Nat × Nat)) : Bool :=
  match rs.getLast? with
  | some (_, hi) => hi ≤ 0x7F
  | none => true

/-- Compiles a class of more than ASCII characters forwards: the state every sequence ends in,
then the shared tree of its byte sequences. -/
def forwardClass (rs : List (Nat × Nat)) (t : Tally) : Counted Tally :=
  match t.add with
  | .error e => .error e
  | .ok t' =>
    let start : TreeBuild := { tally := t', target := t.states, path := #[{}], table := {} }
    match (classSequences rs).foldlM TreeBuild.addSequence start with
    | .error e => .error e
    | .ok b => b.finish

def suffixSlots : Nat := 1000

/-- The table of states built for a class read backwards: by slot, the state's byte range and
the state it leads to, and the state. -/
abbrev SuffixTable := Std.HashMap Nat ((Nat × Nat × Nat) × Nat)

/-- Adds the states of one byte sequence read backwards, after the state `next`, sharing those
the table still holds. -/
def backwardSequence (tbl : SuffixTable) :
    List (Nat × Nat) → Nat → Tally → Counted (SuffixTable × Tally)
  | [], _, t => .ok (tbl, t)
  | (lo, hi) :: rest, next, t =>
    let key := (next, lo, hi)
    let slot := (hashMix (hashMix (hashMix hashStart next) lo) hi % suffixSlots.toUInt64).toNat
    let held := match tbl.get? slot with
      | some (k, id) => if k == key then some id else none
      | none => none
    match held with
    | some id => backwardSequence tbl rest id t
    | none =>
      match t.add with
      | .error e => .error e
      | .ok t' => backwardSequence (tbl.insert slot (key, t.states)) rest t.states t'

/-- Compiles a class of more than ASCII characters backwards: a choice between its byte
sequences, which all end in one empty state. -/
def backwardClass (rs : List (Nat × Nat)) (t : Tally) : Counted Tally := do
  let t ← t.add
  let stop := t.states
  let t ← t.add
  let step := fun (acc : SuffixTable × Tally) seq => do
    let (tbl, t) ← backwardSequence acc.1 seq stop acc.2
    let t ← t.link true
    return (tbl, t)
  let (_, t) ← (classSequences rs).foldlM step ({}, t)
  return t

/-- Compiles a class: ASCII ones as one state that tests its ranges, with an empty state
after it; larger ones from their byte sequences, as the direction wants. -/
def compileClass (backward : Bool) (rs : List (Nat × Nat)) (t : Tally) : Counted Tally :=
  if asciiOnly rs then t.add >>= (·.add rs.length)
  else if backward then backwardClass rs t
  else forwardClass rs t

mutual

/-- Compiles a shape, forwards or backwards; tells whether the piece ends in a choice. -/
def compileShape (backward : Bool) : Shape → Tally → Counted (Piece × Tally)
  | .empty, t => do return (false, ← t.add)
  | .literal cs, t => do return (false, ← t.addMany (byteLength cs))
  | .cls rs, t => do return (false, ← compileClass backward rs t)
  | .look _, t => do return (false, ← t.add)
  | .capture _ b, t =>
    if backward then compileShape backward b t
    else do
      let t ← t.add
      let (p, t) ← compileShape backward b t
      let t ← t.add
      let t ← t.link p
      return (false, t)
  | .concat items, t =>
    if backward then do
      let (p, t) ← compileBack items t
      return (p.getD false, t)
    else compileItems items t
  | .alt bs, t => compileBranches backward bs t
  | .rep b lo hi _, t =>
    let body := compileShape backward b
    match lo, hi with
    | 0, some 1 => do
      let t ← t.add
      let (p, t) ← body t
      let t ← t.add
      let t ← t.link true >>= (·.link true) >>= (·.link p)
      return (false, t)
    | 0, none =>
      if (b.minLen.map fun m => decide (m > 0)).getD false then do
        let t ← t.add
        let (p, t) ← body t
        let t ← t.link true >>= (·.link p)
        return (true, t)
      else do
        let (p, t) ← body t
        let t ← t.add
        let t ← t.link p >>= (·.link true)
        let t ← t.add
        let t ← t.add
        let t ← t.link true >>= (·.link true) >>= (·.link true)
        return (false, t)
    | 1, none => do
      let (p, t) ← body t
      let t ← t.add
      let t ← t.link p >>= (·.link true)
      return (true, t)
    | lo + 2, none => do
      let (p, t) ← exactly body (lo + 1) t
      let (q, t) ← body t
      let t ← t.add
      let t ← t.link p >>= (·.link q) >>= (·.link true)
      return (true, t)
    | lo, some h =>
      if lo = h then exactly body lo t
      else do
        let (p, t) ← exactly body lo t
        let t ← t.add
        let (q, t) ← optionalCopies body (h - lo) p t
        let t ← t.link q
        return (false, t)

def compileItems : List Shape → Tally → Counted (Piece × Tally)
  | [], t => do return (false, ← t.add)
  | x :: rest, t => do
    let (p, t) ← compileShape false x t
    compileAfter rest p t

/-- Compiles the rest of a sequence forwards after an item that ends as `prev`. -/
def compileAfter : List Shape → Piece → Tally → Counted (Piece × Tally)
  | [], prev, t => .ok (prev, t)
  | x :: rest, prev, t => do
    let (p, t) ← compileShape false x t
    let t ← t.link prev
    compileAfter rest p t

/-- Compiles items backwards, the last first, each linked after the one compiled before it;
tells how the first item ends, if there is one. -/
def compileBack : List Shape → Tally → Counted (Option Piece × Tally)
  | [], t => .ok (none, t)
  | x :: rest, t => do
    let (prev, t) ← compileBack rest t
    let (p, t) ← compileShape true x t
    let t ← match prev with
      | some q => t.link q
      | none => pure t
    return (some p, t)

/-- Compiles alternatives: the first two branches, then the choice and the state where the
branches meet, then the other branches. -/
def compileBranches (backward : Bool) : List Shape → Tally → Counted (Piece × Tally)
  | [], t => do return (false, ← t.add)
  | [x], t => compileShape backward x t
  | x :: y :: rest, t => do
    let (p, t) ← compileShape backward x t
    let (q, t) ← compileShape backward y t
    let t ← t.add
    let t ← t.add
    let t ← t.link true >>= (·.link p) >>= (·.link true) >>= (·.link q)
    compileMore backward rest t

/-- Compiles the branches after the first two, each linked from the choice and to the state
where they meet. -/
def compileMore (backward : Bool) : List Shape → Tally → Counted (Piece × Tally)
  | [], t => .ok (false, t)
  | x :: rest, t => do
    let (p, t) ← compileShape backward x t
    let t ← t.link true >>= (·.link p)
    compileMore backward rest t

end

/-- The loop in front of an automaton that lets a match start anywhere: a choice, then a state
that skips any byte with an empty state after it. -/
def skipLoop (t : Tally) : Counted (Piece × Tally) := do
  let t ← t.add
  let t ← t.add
  let t ← t.add 1
  let t ← t.link true
  return (true, t)

def anchoredFront (anchored : Bool) : Counted (Piece × Tally) :=
  if anchored then (({} : Tally).add).map fun t => (false, t) else skipLoop {}

/-- Counts the forward automaton of a shape. -/
def forwardTally (s : Shape) : Counted Tally := do
  let (front, t) ← anchoredFront (s.leadsWith .startText)
  let t ← t.add
  let (p, t) ← compileShape false s t
  let t ← t.add
  let t ← t.link p
  let t ← t.add
  t.link front

/-- Counts the backward automaton of a shape. -/
def backwardTally (s : Shape) : Counted Tally := do
  let (front, t) ← anchoredFront (s.trailsWith .endText)
  let (p, t) ← compileShape true s t
  let t ← t.add
  let t ← t.link p
  t.link front

def Shape.fitsLimit (s : Shape) : Bool :=
  match forwardTally s with
  | .error _ => false
  | .ok _ => (backwardTally s).toBool

end Pattern

end ControlPlane
