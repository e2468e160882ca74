import ControlPlane.Text.Ranges
import ControlPlane.Text.DecimalDigit
import ControlPlane.Text.WordChar
import ControlPlane.Text.CaseFold

/-!
# Patterns: syntax trees and parse errors

A pattern of the ban list is a regular expression. This module holds what a parsed pattern
is, a tree of character classes, look-arounds at a position, sequences, alternatives and
repetitions; and what a failed parse reports, a kind of error with the stretch of the
pattern it concerns.

An error is written in a fixed layout: a first line `regex parse error:`, the pattern with a
line of carets under the stretch at fault (indented by four; with line numbers and a rule of
79 tildes above and below when the pattern spans several lines), and a last line
`error: ` with the kind's words.
-/

namespace ControlPlane

namespace Pattern

/-- A class of characters. -/
inductive CharClass where
  /-- The characters in one of the inclusive code point ranges. -/
  | ranges (rs : List (Nat × Nat))
  /-- The decimal digits of every script. -/
  | digit
  /-- The white space characters. -/
  | space
  /-- The word characters. -/
  | word
  | union (a b : CharClass)
  | inter (a b : CharClass)
  | diff (a b : CharClass)
  | symmDiff (a b : CharClass)
  | negate (a : CharClass)
  /-- The characters that are the same letter up to case as one of the class. -/
  | folded (a : CharClass)
  deriving Inhabited

namespace CharClass

def single (c : Char) : CharClass := .ranges [(c.toNat, c.toNat)]

def none : CharClass := .ranges []

/-- Whether a code point lies in a class. -/
def memNat : CharClass → Nat → Bool
  | .ranges rs, c => rs.any fun (lo, hi) => lo ≤ c && c ≤ hi
  | .digit, c => Text.inRanges Text.decimalDigitRanges c
  | .space, c => Text.inRanges Text.whiteSpaceRanges c
  | .word, c => Text.inRanges Text.wordCharRanges c
  | .union a b, c => memNat a c || memNat b c
  | .inter a b, c => memNat a c && memNat b c
  | .diff a b, c => memNat a c && !memNat b c
  | .symmDiff a b, c => memNat a c != memNat b c
  | .negate a, c => !memNat a c
  | .folded a, c => (Text.caseVariants c).any (memNat a)

def mem (cls : CharClass) (c : Char) : Bool := memNat cls c.toNat

/-- Whether a class holds a code point from `0x80` to `0xFF`. Read as a class of bytes, as it is
when Unicode is off, it then matches a byte that is not UTF-8 on its own. -/
def holdsHighByte (cls : CharClass) : Bool :=
  (List.range 0x80).any fun i => cls.memNat (0x80 + i)

end CharClass

/-- Conditions on a position that consume no character. A line condition with `crlf` takes a
carriage return as a line end too, and never holds between a carriage return and the line feed
after it. A word condition with `ascii` counts only ASCII letters, digits and the underscore as
word characters. -/
inductive Look where
  /-- The start of the text. -/
  | startText
  /-- The end of the text. -/
  | endText
  /-- The start of the text or just after a line end. -/
  | startLine (crlf : Bool)
  /-- The end of the text or just before a line end. -/
  | endLine (crlf : Bool)
  /-- Between a word character and a character that is none, either way round. -/
  | wordBoundary (ascii : Bool)
  /-- Not between a word character and a non-word character. -/
  | notWordBoundary (ascii : Bool)
  /-- Before a word character and not after one. -/
  | wordStart (ascii : Bool)
  /-- After a word character and not before one. -/
  | wordEnd (ascii : Bool)
  /-- Not after a word character. -/
  | wordStartHalf (ascii : Bool)
  /-- Not before a word character. -/
  | wordEndHalf (ascii : Bool)
  deriving Inhabited, BEq

/-- A parsed pattern. -/
inductive Node where
  /-- Matches the empty text. -/
  | empty
  /-- One character of a class. -/
  | chars (cls : CharClass)
  /-- A condition on the position. -/
  | look (l : Look)
  /-- The items one after the other. -/
  | seq (items : List Node)
  /-- One of the branches. -/
  | alt (branches : List Node)
  /-- The body at least `min` and at most `max` times (unbounded without a `max`), trying
  more repetitions first when `greedy`. -/
  | rep (body : Node) (min : Nat) (max : Option Nat) (greedy : Bool)
  /-- A capturing group: it matches what its body matches. -/
  | capture (body : Node)
  deriving Inhabited

/-- The kinds of parse error, each with the words it is reported with. -/
inductive ErrorKind where
  | classEscapeInvalid | classRangeInvalid | classRangeLiteral | classUnclosed
  | decimalEmpty | decimalInvalid | escapeHexEmpty | escapeHexInvalid
  | escapeHexInvalidDigit | escapeUnexpectedEof | escapeUnrecognized
  | flagDanglingNegation | flagDuplicate | flagRepeatedNegation | flagUnexpectedEof
  | flagUnrecognized | groupNameDuplicate | groupNameEmpty | groupNameInvalid
  | groupNameUnexpectedEof | groupUnclosed | groupUnopened
  | repetitionCountInvalid | repetitionCountDecimalEmpty | repetitionCountUnclosed
  | repetitionMissing | specialWordBoundaryUnclosed | specialWordBoundaryUnrecognized
  | specialWordOrRepetitionUnexpectedEof | unicodeClassInvalid
  | unsupportedBackreference | unsupportedLookAround | unicodePropertyNotFound
  | unicodePropertyValueNotFound | unicodeNotAllowed | invalidUtf8 | nestLimitExceeded
  deriving Inhabited, BEq

def nestLimit : Nat := 250

/-- The words of an error kind. -/
def ErrorKind.words : ErrorKind → String
  | .classEscapeInvalid => "invalid escape sequence found in character class"
  | .classRangeInvalid => "invalid character class range, the start must be <= the end"
  | .classRangeLiteral => "invalid range boundary, must be a literal"
  | .classUnclosed => "unclosed character class"
  | .decimalEmpty => "decimal literal empty"
  | .decimalInvalid => "decimal literal invalid"
  | .escapeHexEmpty => "hexadecimal literal empty"
  | .escapeHexInvalid => "hexadecimal literal is not a Unicode scalar value"
  | .escapeHexInvalidDigit => "invalid hexadecimal digit"
  | .escapeUnexpectedEof => "incomplete escape sequence, reached end of pattern prematurely"
  | .escapeUnrecognized => "unrecognized escape sequence"
  | .flagDanglingNegation => "dangling flag negation operator"
  | .flagDuplicate => "duplicate flag"
  | .flagRepeatedNegation => "flag negation operator repeated"
  | .flagUnexpectedEof => "expected flag but got end of regex"
  | .flagUnrecognized => "unrecognized flag"
  | .groupNameDuplicate => "duplicate capture group name"
  | .groupNameEmpty => "empty capture group name"
  | .groupNameInvalid => "invalid capture group character"
  | .groupNameUnexpectedEof => "unclosed capture group name"
  | .groupUnclosed => "unclosed group"
  | .groupUnopened => "unopened group"
  | .repetitionCountInvalid => "invalid repetition count range, the start must be <= the end"
  | .repetitionCountDecimalEmpty => "repetition quantifier expects a valid decimal"
  | .repetitionCountUnclosed => "unclosed counted repetition"
  | .repetitionMissing => "repetition operator missing expression"
  | .specialWordBoundaryUnclosed =>
    "special word boundary assertion is either unclosed or contains an invalid character"
  | .specialWordBoundaryUnrecognized =>
    "unrecognized special word boundary assertion, valid choices are: start, end, start-half or end-half"
  | .specialWordOrRepetitionUnexpectedEof =>
    "found either the beginning of a special word boundary or a bounded repetition on a \\b with an opening brace, but no closing brace"
  | .unicodeClassInvalid => "invalid Unicode character class"
  | .unsupportedBackreference => "backreferences are not supported"
  | .unsupportedLookAround =>
    "look-around, including look-ahead and look-behind, is not supported"
  | .unicodePropertyNotFound => "Unicode property not found"
  | .unicodePropertyValueNotFound => "Unicode property value not found"
  | .unicodeNotAllowed => "Unicode not allowed here"
  | .invalidUtf8 => "pattern can match invalid UTF-8"
  | .nestLimitExceeded =>
    "exceed the maximum number of nested parentheses/brackets (" ++ toString nestLimit ++ ")"

/-- A stretch of the pattern, from a character position up to but without another. -/
structure Span where
  start : Nat
  stop : Nat
  deriving Inhabited, BEq

/-- How the parts of a pattern nest, as the nesting limit counts them. The parts counted are
groups, bracketed classes, repetitions, alternatives, sequences of two items or more, and in a
class the unions of two items or more and the operations; each has its span and the counted
parts inside it. Single characters, escapes, `.`, anchors and flags are not counted. -/
inductive Nesting where
  | part (span : Span) (inner : List Nesting)
  deriving Inhabited

mutual

/-- The first part, in reading order, that lies deeper than `limit` when the part itself lies
at depth `depth + 1`. -/
def Nesting.tooDeep (limit : Nat) : Nat → Nesting → Option Span
  | depth, .part span inner =>
    if depth + 1 > limit then some span else Nesting.tooDeepIn limit (depth + 1) inner

/-- The first part of a list, in reading order, that lies deeper than `limit`. -/
def Nesting.tooDeepIn (limit : Nat) : Nat → List Nesting → Option Span
  | _, [] => none
  | depth, n :: rest =>
    match Nesting.tooDeep limit depth n with
    | some span => some span
    | none => Nesting.tooDeepIn limit depth rest

end

/-- A failed parse: what is wrong, where, and where the first of two clashing parts is. -/
structure Error where
  kind : ErrorKind
  span : Span
  aux : Option Span := none
  deriving Inhabited

def lineColumn (cs : List Char) (pos : Nat) : Nat × Nat :=
  let before := cs.take pos
  let line := before.count '\n' + 1
  let column := (before.reverse.takeWhile (· ≠ '\n')).length + 1
  (line, column)

/-- The lines of a text: split at line feeds, a carriage return before a line feed dropped,
and no empty last line after a final line feed. -/
def textLines (s : String) : List String :=
  let parts := s.splitOn "\n"
  let parts := if s.endsWith "\n" then parts.dropLast else parts
  if s.isEmpty then [] else
  parts.map fun p => if p.endsWith "\r" then String.ofList p.toList.dropLast else p

/-- The caret line under one line of the pattern: for each span on it, blanks up to its first
column and one caret per character it covers (at least one). -/
def caretLine (cs : List Char) (spans : List Span) (pad : Nat) : String := Id.run do
  let mut out := String.ofList (List.replicate pad ' ')
  let mut pos := 0
  for sp in spans do
    let (_, c0) := lineColumn cs sp.start
    let (_, c1) := lineColumn cs sp.stop
    while pos < c0 - 1 do
      out := out.push ' '
      pos := pos + 1
    for _ in [0:max 1 (c1 - c0)] do
      out := out.push '^'
      pos := pos + 1
  return out

def digitCount (n : Nat) : Nat := (toString n).length

/-- The error in its written layout, for the pattern it concerns. -/
def Error.render (e : Error) (pattern : String) : String :=
  let cs := pattern.toList
  let lines := textLines pattern
  let lineCount := lines.length + (if pattern.endsWith "\n" then 1 else 0)
  let width := if lineCount ≤ 1 then 0 else digitCount lineCount
  let spans := (e.span :: e.aux.toList).mergeSort fun a b =>
    a.start < b.start || (a.start == b.start && a.stop ≤ b.stop)
  let oneLine := spans.filter fun sp => (lineColumn cs sp.start).1 == (lineColumn cs sp.stop).1
  let multi := spans.filter fun sp => (lineColumn cs sp.start).1 != (lineColumn cs sp.stop).1
  let pad := if width = 0 then 4 else width + 2
  let step := fun (acc : String) (entry : String × Nat) =>
    let (line, i) := entry
    let number :=
      if width = 0 then "    "
      else
        let n := toString (i + 1)
        String.ofList (List.replicate (width - n.length) ' ') ++ n ++ ": "
    let here := oneLine.filter fun sp => (lineColumn cs sp.start).1 == i + 1
    let acc := acc ++ number ++ line ++ "\n"
    if here.isEmpty then acc else acc ++ caretLine cs here pad ++ "\n"
  let notated := lines.zipIdx.foldl step ""
  if pattern.toList.contains '\n' then
    let rule := String.ofList (List.replicate 79 '~')
    let notes := multi.map fun sp =>
      let (l0, c0) := lineColumn cs sp.start
      let (l1, c1) := lineColumn cs sp.stop
      "on line " ++ toString l0 ++ " (column " ++ toString c0 ++ ") through line " ++
        toString l1 ++ " (column " ++ toString (c1 - 1) ++ ")"
    "regex parse error:\n" ++ rule ++ "\n" ++ notated ++ rule ++ "\n" ++
      (if notes.isEmpty then "" else String.intercalate "\n" notes ++ "\n") ++
      "error: " ++ e.kind.words
  else
    "regex parse error:\n" ++ notated ++ "error: " ++ e.kind.words

end Pattern

end ControlPlane
