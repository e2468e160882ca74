import ControlPlane.Pattern.Syntax
import ControlPlane.Text.PropertyName

/-!
# Reading a pattern

The grammar of ban-list patterns, read left to right:

* a pattern is alternatives separated by `|`, each a sequence of items;
* an item is a literal character, `.`, `^`, `$`, an escape, a bracketed class, or a group
  `( … )`, optionally followed by `?`, `*`, `+` or a count `{n}`, `{n,}`, `{n,m}` (each
  optionally followed by `?`); a count repeats whatever item precedes it;
* a group may be non-capturing `(?flags: … )`, named `(?P<name> … )` or `(?<name> … )`,
  or only set flags, `(?flags)`, for the rest of the enclosing group; the flags are `i`
  (ignore case), `m` (multi-line), `s` (`.` matches a line feed), `U`, `u` (Unicode
  classes), `R` and `x` (blanks and `#` comments are skipped);
* a class `[ … ]` holds characters, ranges `a-z`, escapes, nested classes, the ASCII
  classes `[:alpha:]` and the like, and the operations `&&`, `--` and `~~`, applied left to
  right; `^` first negates it, and a `]` or `-` first is a literal.

Errors are found in reading order, and the first one found is reported. Once the whole pattern
has been read, parts nested deeper than `nestLimit` are reported (the first such part in
reading order), and only then the errors of meaning, such as an unknown Unicode property.
-/

namespace ControlPlane

namespace Pattern

/-- The flags in force at a point of the pattern. -/
structure Flags where
  caseless : Bool := false
  multiLine : Bool := false
  dotAll : Bool := false
  swapGreed : Bool := false
  unicode : Bool := true
  crlf : Bool := false
  extended : Bool := false
  deriving Inhabited

/-- The flags with one flag letter set to a value. -/
def Flags.set (f : Flags) (c : Char) (v : Bool) : Flags :=
  if c = 'i' then { f with caseless := v }
  else if c = 'm' then { f with multiLine := v }
  else if c = 's' then { f with dotAll := v }
  else if c = 'U' then { f with swapGreed := v }
  else if c = 'u' then { f with unicode := v }
  else if c = 'R' then { f with crlf := v }
  else if c = 'x' then { f with extended := v }
  else f

/-- Where reading stands: the pattern, the position, the flags in force, the group names seen
so far with their spans, and the first error that only shows once reading is done. -/
structure ParseState where
  text : Array Char
  pos : Nat := 0
  flags : Flags := {}
  names : List (String × Span) := []
  deferred : Option Error := none

abbrev ParseM := StateT ParseState (Except Error)

/-- One part of a sequence: a pattern node with where it starts and how the parts in it nest,
or a place where flags were set. -/
inductive Item where
  | node (n : Node) (start : Nat) (nest : List Nesting)
  | setFlags

def Item.nesting : Item → List Nesting
  | .node _ _ nest => nest
  | .setFlags => []

/-- How a sequence of items with its span nests: it is a counted part when it has two items
or more. -/
def seqNesting (items : List Item) (span : Span) : List Nesting :=
  let inner := items.flatMap Item.nesting
  if items.length ≥ 2 then [.part span inner] else inner

/-- What an escape or a class character stands for, with its span. -/
inductive Prim where
  | lit (c : Char) (span : Span)
  /-- A character written as two hex digits after `\x`: a byte when Unicode is off. -/
  | byte (c : Char) (span : Span)
  | cls (c : CharClass) (span : Span)
  | look (l : Look) (span : Span)

def Prim.span : Prim → Span
  | .lit _ s => s
  | .byte _ s => s
  | .cls _ s => s
  | .look _ s => s

def fail {α : Type} (kind : ErrorKind) (span : Span) (aux : Option Span := none) : ParseM α :=
  throw ⟨kind, span, aux⟩

def here : ParseM Nat := do return (← get).pos

def cur? : ParseM (Option Char) := do
  let s ← get
  return s.text[s.pos]?

def peek? : ParseM (Option Char) := do
  let s ← get
  return s.text[s.pos + 1]?

def atEnd : ParseM Bool := do
  let s ← get
  return s.pos ≥ s.text.size

def spanHere : ParseM Span := do
  let p ← here
  return ⟨p, p⟩

def spanChar : ParseM Span := do
  let p ← here
  return ⟨p, p + 1⟩

def bump : ParseM Bool := do
  let s ← get
  if s.pos ≥ s.text.size then return false
  set { s with pos := s.pos + 1 }
  return s.pos + 1 < s.text.size

/-- Moves past the given characters if the text continues with them. -/
def bumpIf (word : List Char) : ParseM Bool := do
  let s ← get
  if word.isPrefixOf (s.text.toList.drop s.pos) then
    set { s with pos := s.pos + word.length }
    return true
  else return false

def startsWithHere (word : List Char) : ParseM Bool := do
  let s ← get
  return word.isPrefixOf (s.text.toList.drop s.pos)

def isSpace (c : Char) : Bool := Text.isWhiteSpace c

/-- In extended mode, skips blanks and `#` comments up to the end of their line. -/
def bumpSpace : ParseM Unit := do
  let s ← get
  if !s.flags.extended then return
  let rec skip : Nat → List Char → Nat → Nat
    | 0, _, p => p
    | _, [], p => p
    | fuel + 1, c :: rest, p =>
      if isSpace c then skip fuel rest (p + 1)
      else if c = '#' then
        let comment := rest.takeWhile (· ≠ '\n')
        let after := rest.dropWhile (· ≠ '\n')
        match after with
        | _ :: more => skip fuel more (p + 1 + comment.length + 1)
        | [] => p + 1 + comment.length
      else p
  let rest := s.text.toList.drop s.pos
  set { s with pos := skip (rest.length + 1) rest s.pos }

/-- Moves one character on and past blanks in extended mode; tells whether a character
follows. -/
def bumpAndBumpSpace : ParseM Bool := do
  if !(← bump) then return false
  bumpSpace
  return !(← atEnd)

/-- The next character after the current one, past blanks and comments in extended mode. -/
def peekSpace? : ParseM (Option Char) := do
  let s ← get
  if !s.flags.extended then return s.text[s.pos + 1]?
  if s.pos ≥ s.text.size then return none
  let rest := s.text.toList.drop (s.pos + 1)
  let rec look : Nat → Bool → List Char → Option Char
    | 0, _, _ => none
    | _, _, [] => none
    | fuel + 1, inComment, c :: more =>
      if isSpace c then look fuel inComment more
      else if !inComment && c = '#' then look fuel true more
      else if inComment && c = '\n' then look fuel false more
      else if inComment then look fuel true more
      else some c
  return look (rest.length + 1) false rest

def defer (e : Error) : ParseM Unit :=
  modify fun s => if s.deferred.isSome then s else { s with deferred := some e }

/-! ## Escapes -/

def isHexDigit (c : Char) : Bool := c.isDigit || ('a' ≤ c && c ≤ 'f') || ('A' ≤ c && c ≤ 'F')

def hexValue (cs : List Char) : Nat :=
  cs.foldl (fun acc c =>
    acc * 16 + (if c.isDigit then c.toNat - 48
      else if 'a' ≤ c && c ≤ 'f' then c.toNat - 87 else c.toNat - 55)) 0

def isScalar (n : Nat) : Bool := n < 0xD800 || (0xE000 ≤ n && n ≤ 0x10FFFF)

/-- Reads a fixed number of hex digits after `\x`, `\u` or `\U`. -/
def parseHexDigits (count : Nat) : ParseM Char := do
  let start ← here
  let rec go : Nat → Nat → List Char → ParseM (List Char)
    | 0, _, acc => return acc.reverse
    | n + 1, i, acc => do
      if i > 0 then
        if !(← bumpAndBumpSpace) then fail .escapeUnexpectedEof (← spanHere)
      match ← cur? with
      | some c =>
        if isHexDigit c then go n (i + 1) (c :: acc) else fail .escapeHexInvalidDigit (← spanChar)
      | none => fail .escapeUnexpectedEof (← spanHere)
  let digits ← go count 0 []
  let _ ← bumpAndBumpSpace
  let stop ← here
  let n := hexValue digits
  if isScalar n then return Char.ofNat n else fail .escapeHexInvalid ⟨start, stop⟩

/-- Reads hex digits in braces after `\x`, `\u` or `\U`. -/
def parseHexBrace : ParseM Char := do
  let bracePos ← here
  let start := bracePos + 1
  let rec go : Nat → List Char → ParseM (List Char)
    | 0, acc => return acc.reverse
    | fuel + 1, acc => do
      if !(← bumpAndBumpSpace) then return acc.reverse
      match ← cur? with
      | some '}' => return acc.reverse
      | some c => if isHexDigit c then go fuel (c :: acc) else fail .escapeHexInvalidDigit (← spanChar)
      | none => return acc.reverse
  let digits ← go ((← get).text.size + 1) []
  if ← atEnd then fail .escapeUnexpectedEof ⟨bracePos, ← here⟩
  let stop ← here
  let _ ← bumpAndBumpSpace
  if digits.isEmpty then fail .escapeHexEmpty ⟨bracePos, ← here⟩
  let n := hexValue digits
  if isScalar n then return Char.ofNat n else fail .escapeHexInvalid ⟨start, stop⟩

/-- Reads a hex escape after its backslash, at the `x`, `u` or `U`; tells whether it is the
two-digit form of `\x`, which names a byte. -/
def parseHex : ParseM (Char × Bool) := do
  let count := match ← cur? with
    | some 'x' => 2
    | some 'u' => 4
    | _ => 8
  if !(← bumpAndBumpSpace) then fail .escapeUnexpectedEof (← spanHere)
  if (← cur?) == some '{' then return (← parseHexBrace, false)
  return (← parseHexDigits count, count = 2)

def splitAtFirst? (word : List Char) : List Char → Option (List Char × List Char)
  | [] => if word.isEmpty then some ([], []) else none
  | c :: rest =>
    if word.isPrefixOf (c :: rest) then some ([], (c :: rest).drop word.length)
    else (splitAtFirst? word rest).map fun (a, b) => (c :: a, b)

/-- The query a braced property name writes: a property and a value around the first `!=`,
else the first `:`, else the first `=`, or else a name alone. Tells whether the query asks for
the code points without the value, as `!=` does. -/
def braceQuery (name : String) : Text.PropertyQuery × Bool :=
  let cs := name.toList
  let pair (a b : List Char) := Text.PropertyQuery.byValue (String.ofList a) (String.ofList b)
  match splitAtFirst? ['!', '='] cs with
  | some (a, b) => (pair a b, true)
  | none =>
    match splitAtFirst? [':'] cs with
    | some (a, b) => (pair a b, false)
    | none =>
      match splitAtFirst? ['='] cs with
      | some (a, b) => (pair a b, false)
      | none => (.named name, false)

/-- Reads `\p` or `\P` after its backslash, at the `p`; `start` is the backslash. Ignoring
case widens the class to the other cases of its letters before `\P` or `!=` negates it. -/
def parseUnicodeClass (start : Nat) : ParseM Prim := do
  let negated := (← cur?) == some 'P'
  if !(← bumpAndBumpSpace) then fail .escapeUnexpectedEof (← spanHere)
  let (query, flipped) ← if (← cur?) == some '{' then do
      let rec go : Nat → List Char → ParseM (List Char)
        | 0, acc => return acc.reverse
        | fuel + 1, acc => do
          if !(← bumpAndBumpSpace) then return acc.reverse
          match ← cur? with
          | some '}' => return acc.reverse
          | some c => go fuel (c :: acc)
          | none => return acc.reverse
      let cs ← go ((← get).text.size + 1) []
      if ← atEnd then fail .escapeUnexpectedEof (← spanHere)
      let _ ← bump
      pure (braceQuery (String.ofList cs))
    else do
      match ← cur? with
      | some '\\' => fail .unicodeClassInvalid (← spanChar)
      | some c =>
        let _ ← bumpAndBumpSpace
        pure (Text.PropertyQuery.oneLetter c, false)
      | none => fail .escapeUnexpectedEof (← spanHere)
  let span : Span := ⟨start, ← here⟩
  let flags := (← get).flags
  if !flags.unicode then
    defer ⟨.unicodeNotAllowed, span, none⟩
    return .cls .none span
  match query.ranges with
  | .ok rs =>
    let cls := if flags.caseless then CharClass.folded (.ranges rs) else .ranges rs
    return .cls (if negated != flipped then .negate cls else cls) span
  | .error .propertyNotFound =>
    defer ⟨.unicodePropertyNotFound, span, none⟩
    return .cls .none span
  | .error .valueNotFound =>
    defer ⟨.unicodePropertyValueNotFound, span, none⟩
    return .cls .none span

/-- The class of a Perl escape letter under the flags in force. -/
def perlClass (c : Char) (flags : Flags) : CharClass :=
  let base :=
    if c = 'd' || c = 'D' then
      if flags.unicode then CharClass.digit else .ranges [(0x30, 0x39)]
    else if c = 's' || c = 'S' then
      if flags.unicode then .space else .ranges [(0x9, 0xD), (0x20, 0x20)]
    else if flags.unicode then .word
    else .ranges [(0x30, 0x39), (0x41, 0x5A), (0x5F, 0x5F), (0x61, 0x7A)]
  if c.isUpper then .negate base else base

/-- After `\b` at a `{`: reads a special word boundary `{start}`, `{end}`, `{start-half}` or
`{end-half}`, or leaves the brace to a count when what follows cannot be one. -/
def specialWordBoundary? (wbStart : Nat) (ascii : Bool) : ParseM (Option Look) := do
  let start ← here
  if !(← bumpAndBumpSpace) then fail .specialWordOrRepetitionUnexpectedEof ⟨wbStart, ← here⟩
  let contentStart ← here
  let valid (c : Char) : Bool := c.isAlpha || c = '-'
  match ← cur? with
  | some c =>
    if !valid c then
      modify fun s => { s with pos := start }
      return none
  | none => return none
  let rec go : Nat → List Char → ParseM (List Char)
    | 0, acc => return acc.reverse
    | fuel + 1, acc => do
      match ← cur? with
      | some c =>
        if valid c then
          let _ ← bumpAndBumpSpace
          go fuel (c :: acc)
        else return acc.reverse
      | none => return acc.reverse
  let cs ← go ((← get).text.size + 1) []
  if (← cur?) != some '}' then fail .specialWordBoundaryUnclosed ⟨start, ← here⟩
  let stop ← here
  let _ ← bump
  match String.ofList cs with
  | "start" => return some (.wordStart ascii)
  | "end" => return some (.wordEnd ascii)
  | "start-half" => return some (.wordStartHalf ascii)
  | "end-half" => return some (.wordEndHalf ascii)
  | _ => fail .specialWordBoundaryUnrecognized ⟨contentStart, stop⟩

def isMeta (c : Char) : Bool := "\\.+*?()|[]{}^$#&-~".toList.contains c

def isEscapeable (c : Char) : Bool :=
  isMeta c || (c.toNat < 128 && !c.isAlphanum && c ≠ '<' && c ≠ '>')

/-- Reads an escape at its backslash. -/
def parseEscape : ParseM Prim := do
  let start ← here
  if !(← bump) then fail .escapeUnexpectedEof ⟨start, ← here⟩
  let some c ← cur? | fail .escapeUnexpectedEof ⟨start, ← here⟩
  if c.isDigit then fail .unsupportedBackreference ⟨start, (← here) + 1⟩
  if c = 'x' || c = 'u' || c = 'U' then
    let (lit, byte) ← parseHex
    let span : Span := ⟨start, ← here⟩
    return if byte then .byte lit span else .lit lit span
  if c = 'p' || c = 'P' then return ← parseUnicodeClass start
  if "dswDSW".toList.contains c then
    let flags := (← get).flags
    let _ ← bumpAndBumpSpace
    let span : Span := ⟨start, ← here⟩
    -- without Unicode, a negated class holds every byte above `0x7F`
    if !flags.unicode && c.isUpper then defer ⟨.invalidUtf8, span, none⟩
    return .cls (perlClass c flags) span
  let _ ← bump
  let span : Span := ⟨start, ← here⟩
  if isEscapeable c then return .lit c span
  if c = 'a' then return .lit (Char.ofNat 7) span
  if c = 'f' then return .lit (Char.ofNat 12) span
  if c = 't' then return .lit '\t' span
  if c = 'n' then return .lit '\n' span
  if c = 'r' then return .lit '\r' span
  if c = 'v' then return .lit (Char.ofNat 11) span
  if c = 'A' then return .look .startText span
  if c = 'z' then return .look .endText span
  let ascii := !(← get).flags.unicode
  if c = 'B' then
    -- a negated ASCII boundary may hold inside the encoding of a character
    if ascii then defer ⟨.invalidUtf8, span, none⟩
    return .look (.notWordBoundary ascii) span
  if c = '<' then return .look (.wordStart ascii) span
  if c = '>' then return .look (.wordEnd ascii) span
  if c = 'b' then
    if (← cur?) == some '{' then
      match ← specialWordBoundary? start ascii with
      | some l => return .look l ⟨start, ← here⟩
      | none => return .look (.wordBoundary ascii) span
    return .look (.wordBoundary ascii) span
  fail .escapeUnrecognized span

/-! ## Classes -/

/-- The ASCII class of a name, if the name is one. -/
def asciiClass? (name : String) : Option CharClass :=
  let r (rs : List (Nat × Nat)) : Option CharClass := some (.ranges rs)
  match name with
  | "alnum" => r [(0x30, 0x39), (0x41, 0x5A), (0x61, 0x7A)]
  | "alpha" => r [(0x41, 0x5A), (0x61, 0x7A)]
  | "ascii" => r [(0x0, 0x7F)]
  | "blank" => r [(0x9, 0x9), (0x20, 0x20)]
  | "cntrl" => r [(0x0, 0x1F), (0x7F, 0x7F)]
  | "digit" => r [(0x30, 0x39)]
  | "graph" => r [(0x21, 0x7E)]
  | "lower" => r [(0x61, 0x7A)]
  | "print" => r [(0x20, 0x7E)]
  | "punct" => r [(0x21, 0x2F), (0x3A, 0x40), (0x5B, 0x60), (0x7B, 0x7E)]
  | "space" => r [(0x9, 0xD), (0x20, 0x20)]
  | "upper" => r [(0x41, 0x5A)]
  | "word" => r [(0x30, 0x39), (0x41, 0x5A), (0x5F, 0x5F), (0x61, 0x7A)]
  | "xdigit" => r [(0x30, 0x39), (0x41, 0x46), (0x61, 0x66)]
  | _ => none

/-- At a `[` inside a class: reads an ASCII class `[:name:]` or `[:^name:]`, or moves back
and reads nothing when the text is not one. -/
def asciiClassHere? : ParseM (Option CharClass) := do
  let s ← get
  let rest := s.text.toList.drop s.pos
  match rest with
  | '[' :: ':' :: more =>
    let (negated, more) := match more with
      | '^' :: m => (true, m)
      | m => (false, m)
    let name := more.takeWhile (· ≠ ':')
    match more.dropWhile (· ≠ ':') with
    | ':' :: ']' :: _ =>
      match asciiClass? (String.ofList name) with
      | some cls =>
        let used := 2 + (if negated then 1 else 0) + name.length + 2
        set { s with pos := s.pos + used }
        return some (if negated then .negate cls else cls)
      | none => return none
    | _ => return none
  | _ => return none

/-- A class item read as a single character or escape. -/
def parseClassPrim : ParseM Prim := do
  match ← cur? with
  | some '\\' => parseEscape
  | some c =>
    let span ← spanChar
    let _ ← bump
    return .lit c span
  | none => fail .classUnclosed (← spanHere)

def checkClassChar (c : Char) (span : Span) : ParseM Unit := do
  if !(← get).flags.unicode && c.toNat > 0x7F then defer ⟨.unicodeNotAllowed, span, none⟩

/-- An escape used as a class item: a character or a class, never a look-around. -/
def primAsClass (p : Prim) : ParseM CharClass :=
  match p with
  | .lit c span => do
    checkClassChar c span
    return CharClass.single c
  | .byte c _ => return CharClass.single c
  | .cls c _ => return c
  | .look _ span => fail .classEscapeInvalid span

/-- An escape used as a range bound: a character only. -/
def primAsChar (p : Prim) : ParseM Char :=
  match p with
  | .lit c span => do
    checkClassChar c span
    return c
  | .byte c _ => return c
  | _ => fail .classRangeLiteral p.span

/-- The operations between parts of a class. -/
inductive ClassOp where
  | inter | diff | symmDiff

/-- Combines two parts of a class by an operation, each folded when case is ignored. -/
def ClassOp.apply (op : ClassOp) (fold : Bool) (a b : CharClass) : CharClass :=
  let f (c : CharClass) : CharClass := if fold then .folded c else c
  match op with
  | .inter => .inter (f a) (f b)
  | .diff => .diff (f a) (f b)
  | .symmDiff => .symmDiff (f a) (f b)

def unionAll (parts : List CharClass) : CharClass :=
  parts.foldl CharClass.union CharClass.none

/-- A class item or operand as the nesting limit sees it: its span and the counted parts in
it. -/
abbrev ClassPiece := Span × List Nesting

/-- The piece of a union of items, given last first; an empty union stands at `start`. A
union of two items or more is a counted part. -/
def unionPiece (start : Nat) (items : List ClassPiece) : ClassPiece :=
  match items.reverse, items with
  | [], _ => (⟨start, start⟩, [])
  | [one], _ => one
  | first :: _, last :: _ =>
    let span : Span := ⟨first.1.start, last.1.stop⟩
    (span, [.part span (items.reverse.flatMap (·.2))])
  | _, [] => (⟨start, start⟩, [])

def opPiece (lhs rhs : ClassPiece) : ClassPiece :=
  let span : Span := ⟨lhs.1.start, rhs.1.stop⟩
  (span, [.part span (lhs.2 ++ rhs.2)])

/-- Reads a bracketed class at its `[`, with how the parts in it nest. `fuel` bounds the
nesting. -/
def parseBracket : Nat → ParseM (CharClass × List Nesting)
  | 0 => do fail .classUnclosed (← spanHere)
  | fuel + 1 => do
    let start ← here
    if !(← bumpAndBumpSpace) then fail .classUnclosed ⟨start, ← here⟩
    let negated ← if (← cur?) == some '^' then do
        if !(← bumpAndBumpSpace) then fail .classUnclosed ⟨start, ← here⟩
        pure true
      else pure false
    let unionStart ← here
    let rec dashes :
        Nat → List (CharClass × ClassPiece) → ParseM (List (CharClass × ClassPiece))
      | 0, acc => return acc
      | n + 1, acc => do
        if (← cur?) == some '-' then
          let sp ← spanChar
          if !(← bumpAndBumpSpace) then fail .classUnclosed ⟨start, start⟩
          dashes n ((CharClass.single '-', (sp, [])) :: acc)
        else return acc
    let lead ← dashes ((← get).text.size + 1) []
    let lead ← if lead.isEmpty && (← cur?) == some ']' then do
        let sp ← spanChar
        if !(← bumpAndBumpSpace) then fail .classUnclosed ⟨start, ← here⟩
        pure [(CharClass.single ']', (sp, []))]
      else pure lead
    let openSpan : Span := ⟨start, ← here⟩
    let fold := (← get).flags.caseless
    -- one item, which may be a range
    let rangeItem : ParseM (CharClass × ClassPiece) := do
      let p1 ← parseClassPrim
      bumpSpace
      if ← atEnd then fail .classUnclosed openSpan
      let next ← peekSpace?
      if (← cur?) != some '-' || next == some ']' || next == some '-' then
        return (← primAsClass p1, (p1.span, []))
      else
        if !(← bumpAndBumpSpace) then fail .classUnclosed openSpan
        let p2 ← parseClassPrim
        let c1 ← primAsChar p1
        let c2 ← primAsChar p2
        let span : Span := ⟨p1.span.start, p2.span.stop⟩
        if c1 > c2 then fail .classRangeInvalid span
        return (CharClass.ranges [(c1.toNat, c2.toNat)], (span, []))
    -- the items of the current operand, last first, where it starts, and the operand and
    -- operation before it
    let rec items : Nat → List (CharClass × ClassPiece) → Nat →
        Option (ClassOp × CharClass × ClassPiece) → ParseM (CharClass × List Nesting)
      | 0, _, _, _ => fail .classUnclosed openSpan
      | n + 1, acc, from_, pending => do
        bumpSpace
        let close (acc : List (CharClass × ClassPiece)) : CharClass × ClassPiece :=
          let cur := unionAll (acc.map (·.1)).reverse
          let piece := unionPiece from_ (acc.map (·.2))
          match pending with
          | some (op, lhs, lhsPiece) => (op.apply fold lhs cur, opPiece lhsPiece piece)
          | none => (cur, piece)
        match ← cur? with
        | none => fail .classUnclosed openSpan
        | some '[' =>
          let itemStart ← here
          match ← asciiClassHere? with
          | some cls => items n ((cls, (⟨itemStart, ← here⟩, [])) :: acc) from_ pending
          | none =>
            let (inner, nest) ← parseBracket fuel
            items n ((inner, (⟨itemStart, ← here⟩, nest)) :: acc) from_ pending
        | some ']' =>
          let _ ← bump
          let (body, piece) := close acc
          let body := if fold then CharClass.folded body else body
          let cls := if negated then CharClass.negate body else body
          let span : Span := ⟨start, ← here⟩
          if !(← get).flags.unicode && cls.holdsHighByte then
            defer ⟨.invalidUtf8, span, none⟩
          return (cls, [.part span piece.2])
        | some c =>
          let next ← peek?
          let op? : Option ClassOp :=
            if c = '&' && next == some '&' then some .inter
            else if c = '-' && next == some '-' then some .diff
            else if c = '~' && next == some '~' then some .symmDiff
            else none
          match op? with
          | some op =>
            let _ ← bump
            let _ ← bump
            let (lhs, lhsPiece) := close acc
            items n [] (← here) (some (op, lhs, lhsPiece))
          | none =>
            let item ← rangeItem
            items n (item :: acc) from_ pending
    items ((← get).text.size + 2) lead unionStart none

/-! ## Groups, repetitions and sequences -/

def isNameChar (c : Char) (first : Bool) : Bool :=
  let alpha := c.isAlpha || (c.toNat ≥ 128 && Text.isWordChar c && !Text.isDecimalDigit c)
  if first then c = '_' || alpha
  else c = '_' || c = '.' || c = '[' || c = ']' || alpha || c.isDigit ||
    (c.toNat ≥ 128 && Text.isWordChar c)

/-- Reads a group name after `(?P<` or `(?<`, with its closing `>`. -/
def parseCaptureName : ParseM Unit := do
  if ← atEnd then fail .groupNameUnexpectedEof (← spanHere)
  let start ← here
  let rec go : Nat → ParseM Unit
    | 0 => return
    | fuel + 1 => do
      match ← cur? with
      | some '>' => return
      | some c =>
        if !isNameChar c ((← here) == start) then fail .groupNameInvalid (← spanChar)
        if !(← bump) then return
        go fuel
      | none => return
  go ((← get).text.size + 1)
  let stop ← here
  if ← atEnd then fail .groupNameUnexpectedEof (← spanHere)
  let _ ← bump
  if stop = start then fail .groupNameEmpty ⟨start, start⟩
  let s ← get
  let name := String.ofList ((s.text.toList.drop start).take (stop - start))
  let span : Span := ⟨start, stop⟩
  match s.names.lookup name with
  | some first => fail .groupNameDuplicate span (some first)
  | none => set { s with names := s.names ++ [(name, span)] }

def flagValues : List (Char × Span) → Bool → List (Char × Bool)
  | [], _ => []
  | (c, _) :: rest, v => if c = '-' then flagValues rest false else (c, v) :: flagValues rest v

/-- Reads the flags of `(?…)` up to the `:` or `)`, as letters with the value they set. -/
def parseFlags : ParseM (List (Char × Bool)) := do
  let rec go : Nat → List (Char × Span) → Option Span → Bool → ParseM (List (Char × Bool))
    | 0, _, _, _ => return []
    | fuel + 1, seen, negation, negating => do
      match ← cur? with
      | some ':' | some ')' | none =>
        match negation with
        | some sp =>
          if seen.getLast?.map (·.1) == some '-' then fail .flagDanglingNegation sp
          else pure ()
        | none => pure ()
        return flagValues seen true
      | some c =>
        let sp ← spanChar
        if c = '-' then
          match seen.find? (·.1 == '-') with
          | some (_, first) => fail .flagRepeatedNegation sp (some first)
          | none => pure ()
        else
          if !"imsUuRx".toList.contains c then fail .flagUnrecognized sp
          match seen.find? (·.1 == c) with
          | some (_, first) => fail .flagDuplicate sp (some first)
          | none => pure ()
        let seen := seen ++ [(c, sp)]
        let negation := if c = '-' then some sp else negation
        if !(← bump) then fail .flagUnexpectedEof (← spanHere)
        go fuel seen negation negating
  go ((← get).text.size + 1) [] none false

/-- What an opening parenthesis starts. -/
inductive GroupOpen where
  /-- Flags set for the rest of the enclosing group. -/
  | setFlags (flags : List (Char × Bool))
  /-- A group, with its opening span, whether it captures, and the flags it sets inside. -/
  | group (openSpan : Span) (capturing : Bool) (flags : List (Char × Bool))

/-- Reads the opening of a group at its `(`. -/
def parseGroupOpen : ParseM GroupOpen := do
  let openSpan ← spanChar
  let _ ← bump
  bumpSpace
  if (← bumpIf ['?', '=']) || (← bumpIf ['?', '!']) ||
      (← bumpIf ['?', '<', '=']) || (← bumpIf ['?', '<', '!']) then
    fail .unsupportedLookAround ⟨openSpan.start, ← here⟩
  let inner ← spanHere
  if (← bumpIf ['?', 'P', '<']) || (← bumpIf ['?', '<']) then
    parseCaptureName
    return .group openSpan true []
  if ← bumpIf ['?'] then
    if ← atEnd then fail .groupUnclosed openSpan
    let flagsStart ← here
    let flags ← parseFlags
    let endChar ← cur?
    let _ ← bump
    if endChar == some ')' then
      if flagsStart + 1 = (← here) then fail .repetitionMissing inner
      return .setFlags flags
    return .group openSpan false flags
  return .group openSpan true []

def applyFlags (f : Flags) (items : List (Char × Bool)) : Flags :=
  items.foldl (fun f (c, v) => f.set c v) f

/-- Reads a decimal number of a count, with blanks around it. -/
def parseDecimal : ParseM Nat := do
  let rec skipBlanks : Nat → ParseM Unit
    | 0 => return
    | fuel + 1 => do
      match ← cur? with
      | some c => if isSpace c then (do let _ ← bump; skipBlanks fuel) else return
      | none => return
  let size := (← get).text.size + 1
  skipBlanks size
  let start ← here
  let rec digits : Nat → List Char → ParseM (List Char)
    | 0, acc => return acc.reverse
    | fuel + 1, acc => do
      match ← cur? with
      | some c =>
        if c.isDigit then
          let _ ← bumpAndBumpSpace
          digits fuel (c :: acc)
        else return acc.reverse
      | none => return acc.reverse
  let ds ← digits size []
  let span : Span := ⟨start, ← here⟩
  skipBlanks size
  if ds.isEmpty then fail .repetitionCountDecimalEmpty span
  let n := ds.foldl (fun acc c => acc * 10 + (c.toNat - 48)) 0
  if n ≥ Nat.pow 2 32 then fail .decimalInvalid span
  return n

/-- Reads a count `{…}` at its `{`, for the item before it, and whether a `?` after it asks for
as few repetitions as possible. -/
def parseCount : ParseM (Nat × Option Nat × Bool) := do
  let start ← here
  if !(← bumpAndBumpSpace) then fail .repetitionCountUnclosed ⟨start, ← here⟩
  let lo ← parseDecimal
  if ← atEnd then fail .repetitionCountUnclosed ⟨start, ← here⟩
  let hi ← if (← cur?) == some ',' then do
      if !(← bumpAndBumpSpace) then fail .repetitionCountUnclosed ⟨start, ← here⟩
      if (← cur?) != some '}' then
        let hi ← parseDecimal
        pure (some (some hi))
      else pure (some none)
    else pure none
  if (← atEnd) || (← cur?) != some '}' then fail .repetitionCountUnclosed ⟨start, ← here⟩
  let lazy ← if (← bumpAndBumpSpace) && (← cur?) == some '?' then bump *> pure true
    else pure false
  let stop ← here
  match hi with
  | none => return (lo, some lo, lazy)
  | some none => return (lo, none, lazy)
  | some (some h) =>
    if lo > h then fail .repetitionCountInvalid ⟨start, stop⟩
    return (lo, some h, lazy)

def literalNode (c : Char) (flags : Flags) : Node :=
  if flags.caseless then .chars (.folded (CharClass.single c)) else .chars (CharClass.single c)

def dotNode (flags : Flags) : Node :=
  if flags.dotAll then .chars (.ranges [(0, 0x10FFFF)])
  else if flags.crlf then .chars (.negate (.ranges [(0xA, 0xA), (0xD, 0xD)]))
  else .chars (.negate (.ranges [(0xA, 0xA)]))

/-- Without Unicode, records why a literal cannot stand outside a class: a byte above `0x7F`
can match text that is not UTF-8, and a character beyond ASCII cannot ignore case. -/
def checkLiteral (p : Prim) (flags : Flags) : ParseM Unit :=
  if flags.unicode then pure ()
  else
    match p with
    | .byte c span => if c.toNat > 0x7F then defer ⟨.invalidUtf8, span, none⟩ else pure ()
    | .lit c span =>
      if flags.caseless && c.toNat > 0x7F then defer ⟨.unicodeNotAllowed, span, none⟩ else pure ()
    | _ => pure ()

/-- The node of an escape under the flags in force. -/
def primNode (p : Prim) (flags : Flags) : Node :=
  match p with
  | .lit c _ => literalNode c flags
  | .byte c _ => literalNode c flags
  | .cls c _ => .chars (if flags.caseless then .folded c else c)
  | .look l _ => .look l

/-- The alternatives of a group or of the pattern. -/
def altNode (branches : List (List Item)) : Node :=
  let seqOf (items : List Item) : Node :=
    .seq (items.filterMap fun | .node n _ _ => some n | .setFlags => none)
  match branches with
  | [one] => seqOf one
  | many => .alt (many.map seqOf)

/-- Applies a repetition to the last item of a sequence; a lazy one tries fewer repetitions
first, and the `U` flag swaps the two. -/
def repeatLast (concat : List Item) (lo : Nat) (hi : Option Nat) (lazy : Bool) (at_ : Span) :
    ParseM (List Item) := do
  let greedy := lazy == (← get).flags.swapGreed
  match concat.getLast? with
  | some (.node n start nest) =>
    return concat.dropLast ++ [.node (.rep n lo hi greedy) start [.part ⟨start, ← here⟩ nest]]
  | _ => fail .repetitionMissing at_

def lazySuffix : ParseM Bool := do
  if (← bump) && (← cur?) == some '?' then
    let _ ← bump
    return true
  return false

/-- Where the alternatives being read stand: where the first branch started, the branches
read so far with how they nest, and where the current branch started. -/
structure Branches where
  start : Nat
  done : List (List Item) := []
  nest : List Nesting := []
  current : Nat

def Branches.close (b : Branches) (concat : List Item) (stop : Nat) : Branches :=
  { b with done := b.done ++ [concat], nest := b.nest ++ seqNesting concat ⟨b.current, stop⟩ }

/-- The node of the branches once the last ended at `stop`, and how they nest: alternatives
are a counted part. -/
def Branches.finish (b : Branches) (concat : List Item) (stop : Nat) : Node × List Nesting :=
  let last := seqNesting concat ⟨b.current, stop⟩
  let nest := if b.done.isEmpty then last else [.part ⟨b.start, stop⟩ (b.nest ++ last)]
  (altNode (b.done ++ [concat]), nest)

/-- Reads alternatives up to the end of the pattern or an unmatched `)`, which it leaves in
place; tells which of the two it stopped at, and how the parts read nest. `depth` counts the
open groups. -/
def parseAlternatives :
    Nat → Nat → Branches → List Item → ParseM (Node × Bool × List Nesting)
  | 0, _, _, _ => do fail .groupUnclosed (← spanHere)
  | fuel + 1, depth, branches, concat => do
    bumpSpace
    let flags := (← get).flags
    let at_ ← here
    match ← cur? with
    | none =>
      let (node, nest) := branches.finish concat at_
      return (node, false, nest)
    | some ')' =>
      if depth = 0 then fail .groupUnopened (← spanChar)
      let (node, nest) := branches.finish concat at_
      return (node, true, nest)
    | some '|' =>
      let _ ← bump
      parseAlternatives fuel depth { branches.close concat at_ with current := at_ + 1 } []
    | some '(' =>
      match ← parseGroupOpen with
      | .setFlags items =>
        modify fun s => { s with flags := applyFlags s.flags items }
        parseAlternatives fuel depth branches (concat ++ [.setFlags])
      | .group openSpan capturing items =>
        let saved := (← get).flags
        modify fun s => { s with flags := applyFlags s.flags items }
        let inner ← here
        let (body, closed, nest) ←
          parseAlternatives fuel (depth + 1) ⟨inner, [], [], inner⟩ []
        if !closed then fail .groupUnclosed openSpan
        modify fun s => { s with flags := saved }
        let _ ← bump
        let node := if capturing then Node.capture body else body
        let part := Nesting.part ⟨openSpan.start, ← here⟩ nest
        parseAlternatives fuel depth branches (concat ++ [.node node openSpan.start [part]])
    | some '[' =>
      let (cls, nest) ← parseBracket ((← get).text.size + 1)
      parseAlternatives fuel depth branches (concat ++ [.node (.chars cls) at_ nest])
    | some '?' =>
      let sp ← spanHere
      let lazy ← lazySuffix
      let concat ← repeatLast concat 0 (some 1) lazy sp
      parseAlternatives fuel depth branches concat
    | some '*' =>
      let sp ← spanHere
      let lazy ← lazySuffix
      let concat ← repeatLast concat 0 none lazy sp
      parseAlternatives fuel depth branches concat
    | some '+' =>
      let sp ← spanHere
      let lazy ← lazySuffix
      let concat ← repeatLast concat 1 none lazy sp
      parseAlternatives fuel depth branches concat
    | some '{' =>
      let sp ← spanHere
      match concat.getLast? with
      | some (.node _ _ _) => pure ()
      | _ => fail .repetitionMissing sp
      let (lo, hi, lazy) ← parseCount
      let concat ← repeatLast concat lo hi lazy sp
      parseAlternatives fuel depth branches concat
    | some '\\' =>
      let p ← parseEscape
      checkLiteral p flags
      parseAlternatives fuel depth branches (concat ++ [.node (primNode p flags) at_ []])
    | some '.' =>
      let sp ← spanChar
      let _ ← bump
      -- without Unicode, `.` matches single bytes above `0x7F`
      if !flags.unicode then defer ⟨.invalidUtf8, sp, none⟩
      parseAlternatives fuel depth branches (concat ++ [.node (dotNode flags) at_ []])
    | some '^' =>
      let _ ← bump
      let l := if flags.multiLine then Look.startLine flags.crlf else .startText
      parseAlternatives fuel depth branches (concat ++ [.node (.look l) at_ []])
    | some '$' =>
      let _ ← bump
      let l := if flags.multiLine then Look.endLine flags.crlf else .endText
      parseAlternatives fuel depth branches (concat ++ [.node (.look l) at_ []])
    | some c =>
      let sp ← spanChar
      let _ ← bump
      checkLiteral (.lit c sp) flags
      parseAlternatives fuel depth branches (concat ++ [.node (literalNode c flags) at_ []])

/-- Reads a whole pattern. -/
def parse (pattern : String) : Except Error Node := do
  let text := pattern.toList.toArray
  let fuel := 2 * text.size + 4
  match (parseAlternatives fuel 0 ⟨0, [], [], 0⟩ []).run { text } with
  | .error e => throw e
  | .ok ((node, _, nest), s) =>
    match Nesting.tooDeepIn nestLimit 0 nest with
    | some span => throw ⟨.nestLimitExceeded, span, none⟩
    | none =>
      match s.deferred with
      | some e => throw e
      | none => return node

end Pattern

end ControlPlane
