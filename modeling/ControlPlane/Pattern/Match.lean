import ControlPlane.Pattern.Parse
import ControlPlane.Pattern.Footprint

/-!
# Matching a pattern

A pattern matches a text when some stretch of the text is one of the pattern's words. The
matcher follows sets of positions: `ends n S` is the set of positions where a word of `n`
can end when it starts at a position of `S`. A sequence composes these sets, alternatives
unite them, and a repetition iterates its body until the set stops growing, which it does
after at most one step per position of the text. A text matches when the ends of the
pattern from all positions are not empty.

A body never moves back: from a position it ends there or further on. So a run of more steps
than the text has positions stays in place for at least one of them, and can stay there for
any number more; the ends after `n + 1` steps, for a text of `n` characters, are the ends
after any greater number of steps, and a count above that is cut down to it.

Position sets are sorted lists without repetitions.
-/

namespace ControlPlane

namespace Pattern

/-- The union of two sorted position lists. -/
def mergePositions : List Nat → List Nat → List Nat
  | [], ys => ys
  | xs, [] => xs
  | x :: xs, y :: ys =>
    if x < y then x :: mergePositions xs (y :: ys)
    else if y < x then y :: mergePositions (x :: xs) ys
    else x :: mergePositions xs ys

def isWordCharIn (ascii : Bool) (c : Char) : Bool :=
  if ascii then c.isAlphanum || c = '_' else Text.isWordChar c

def wordBefore (ascii : Bool) (text : Array Char) (p : Nat) : Bool :=
  p > 0 && (text[p - 1]?.map (isWordCharIn ascii)).getD false

def wordAt (ascii : Bool) (text : Array Char) (p : Nat) : Bool :=
  (text[p]?.map (isWordCharIn ascii)).getD false

/-- Whether a position is the start of a line: the start of the text, after a line feed, or
with `crlf` also after a carriage return that no line feed follows. -/
def lineStartAt (crlf : Bool) (text : Array Char) (p : Nat) : Bool :=
  p = 0 || text[p - 1]? == some '\n' ||
    (crlf && text[p - 1]? == some '\r' && text[p]? != some '\n')

/-- Whether a position is the end of a line: the end of the text, before a line feed, or with
`crlf` also before a carriage return, but not between a carriage return and a line feed. -/
def lineEndAt (crlf : Bool) (text : Array Char) (p : Nat) : Bool :=
  p = text.size ||
    (if crlf then
      text[p]? == some '\r' || (text[p]? == some '\n' && (p = 0 || text[p - 1]? != some '\r'))
    else text[p]? == some '\n')

/-- Whether a condition holds at a position. -/
def Look.holds (l : Look) (text : Array Char) (p : Nat) : Bool :=
  match l with
  | .startText => p = 0
  | .endText => p = text.size
  | .startLine crlf => lineStartAt crlf text p
  | .endLine crlf => lineEndAt crlf text p
  | .wordBoundary a => wordBefore a text p != wordAt a text p
  | .notWordBoundary a => wordBefore a text p == wordAt a text p
  | .wordStart a => !wordBefore a text p && wordAt a text p
  | .wordEnd a => wordBefore a text p && !wordAt a text p
  | .wordStartHalf a => !wordBefore a text p
  | .wordEndHalf a => !wordAt a text p

def iterateSteps (f : List Nat → List Nat) : Nat → List Nat → List Nat
  | 0, s => s
  | k + 1, s => if s.isEmpty then s else iterateSteps f k (f s)

def growSteps (f : List Nat → List Nat) : Nat → List Nat → List Nat
  | 0, s => s
  | k + 1, s =>
    let s' := mergePositions s (f s)
    if s' == s then s else growSteps f k s'

mutual

/-- The positions where a word of the node can end, starting at one of the given ones. -/
def ends (text : Array Char) : Node → List Nat → List Nat
  | .empty, s => s
  | .chars cls, s =>
    s.filterMap fun p => match text[p]? with
      | some c => if cls.mem c then some (p + 1) else none
      | none => none
  | .look l, s => s.filter (l.holds text)
  | .seq items, s => endsSeq text items s
  | .alt branches, s => endsAlt text branches s
  | .capture body, s => ends text body s
  | .rep body lo hi _, s =>
    let start := iterateSteps (ends text body) (min lo (text.size + 1)) s
    let more := match hi with
      | some h => h - lo
      | none => text.size + 1
    growSteps (ends text body) (min more (text.size + 1)) start

def endsSeq (text : Array Char) : List Node → List Nat → List Nat
  | [], s => s
  | n :: rest, s => endsSeq text rest (ends text n s)

def endsAlt (text : Array Char) : List Node → List Nat → List Nat
  | [], _ => []
  | n :: rest, s => mergePositions (ends text n s) (endsAlt text rest s)

end

def Node.matchesIn (n : Node) (text : String) : Bool :=
  let cs := text.toList.toArray
  !(ends cs n (List.range (cs.size + 1))).isEmpty

end Pattern

/-- A pattern, read. -/
structure Regex where
  source : String
  node : Pattern.Node

namespace Regex

/-- Reads a pattern, or gives the written error: the parse error, or the size limit its
automata would pass. -/
def compile (pattern : String) : Except String Regex :=
  match Pattern.parse pattern with
  | .ok node =>
    if node.shape.fitsLimit then .ok ⟨pattern, node⟩
    else .error ("Compiled regex exceeds size limit of " ++ toString Pattern.sizeLimit ++ " bytes.")
  | .error e => .error (e.render pattern)

def isMatch (r : Regex) (text : String) : Bool := r.node.matchesIn text

end Regex

end ControlPlane
