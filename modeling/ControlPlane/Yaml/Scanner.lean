/-!
# YAML scanner

The first stage of reading a YAML text: characters become tokens. Settings files are YAML,
and a settings error quotes the reader's message, so the scanner follows the reference
scanner of the YAML 1.1 reader step by step: the same tokens, the same positions and the
same messages.

The scanner is lazy. The parser asks for one token at a time, and the scanner reads only as
far as it must to be sure of the next one. That matters: the first error reported is the
first one met along that order, and a later stage may fail before the scanner ever reaches a
bad character.

1. A *mark* is a position: character index, line and column, all from zero.
2. *Simple keys*: a scalar or collection that may turn out to be a mapping key is remembered
   with the number its token would have. When a `:` follows on the same line, a KEY token
   (and, in block context, a BLOCK-MAPPING-START) is inserted before it in the queue.
3. *Indentation*: block collections open when a line is indented more than the current
   level, and close (BLOCK-END) when a line is indented less.
-/

namespace ControlPlane

namespace Yaml

/-- A position in the text, counted in characters from zero. -/
structure Mark where
  index : Nat := 0
  line : Nat := 0
  column : Nat := 0
  deriving Inhabited, BEq, DecidableEq

namespace Mark

def render (m : Mark) : String :=
  "line " ++ toString (m.line + 1) ++ " column " ++ toString (m.column + 1)

def isStart (m : Mark) : Bool := m.line == 0 && m.column == 0

end Mark

/-- A syntax error of the reader: a problem where it was found, and what was being read. -/
structure SyntaxError where
  problem : String
  problemMark : Mark := {}
  context : Option String := none
  contextMark : Mark := {}
  /-- The byte offset of a bad character, for errors found before scanning. -/
  problemOffset : Nat := 0
  deriving Inhabited

namespace SyntaxError

/-- The message of a syntax error: the problem and its place, then the context and its place
when that differs. -/
def render (e : SyntaxError) : String :=
  let head :=
    if !e.problemMark.isStart then e.problem ++ " at " ++ e.problemMark.render
    else if e.problemOffset != 0 then e.problem ++ " at position " ++ toString e.problemOffset
    else e.problem
  match e.context with
  | none => head
  | some c =>
    let cm := e.contextMark
    if !cm.isStart && (cm.line != e.problemMark.line || cm.column != e.problemMark.column) then
      head ++ ", " ++ c ++ " at " ++ cm.render
    else head ++ ", " ++ c

end SyntaxError

/-- How a scalar was written. -/
inductive ScalarStyle where
  | plain | singleQuoted | doubleQuoted | literal | folded
  deriving Inhabited, BEq, DecidableEq

/-- The kinds of token. -/
inductive TokenKind where
  | streamStart | streamEnd
  | versionDirective (major minor : Nat)
  | tagDirective (handle tagPrefix : String)
  | documentStart | documentEnd
  | blockSequenceStart | blockMappingStart | blockEnd
  | flowSequenceStart | flowSequenceEnd | flowMappingStart | flowMappingEnd
  | blockEntry | flowEntry | key | value
  | alias (name : String)
  | anchor (name : String)
  | tag (handle suffix : String)
  | scalar (text : String) (style : ScalarStyle)
  deriving Inhabited, BEq

/-- A token and the marks where it starts and stops. -/
structure Token where
  kind : TokenKind
  start : Mark
  stop : Mark
  deriving Inhabited

/-- A place where a simple key may start. -/
structure SimpleKey where
  possible : Bool := false
  required : Bool := false
  tokenNumber : Nat := 0
  mark : Mark := {}
  deriving Inhabited

/-- The scanner's state. -/
structure Scanner where
  input : Array Char
  mark : Mark := {}
  /-- Tokens scanned and not yet taken, first one first. -/
  tokens : List Token := []
  tokensParsed : Nat := 0
  tokenAvailable : Bool := false
  streamStartProduced : Bool := false
  streamEndProduced : Bool := false
  indent : Int := -1
  indents : List Int := []
  simpleKeyAllowed : Bool := false
  /-- One candidate per flow level and one for block context, innermost first. -/
  simpleKeys : List SimpleKey := []
  flowLevel : Nat := 0
  deriving Inhabited

abbrev ScanM := StateT Scanner (Except SyntaxError)

/-! ## Characters -/

def isBreak (c : Char) : Bool :=
  c == '\r' || c == '\n' || c == '\x85' || c == '\u2028' || c == '\u2029'

def isEnd (c : Char) : Bool := c == '\x00'

def isBreakZ (c : Char) : Bool := isBreak c || isEnd c

def isBlank (c : Char) : Bool := c == ' ' || c == '\t'

def isBlankZ (c : Char) : Bool := isBlank c || isBreakZ c

def isWordChar (c : Char) : Bool :=
  ('0' ≤ c && c ≤ '9') || ('a' ≤ c && c ≤ 'z') || ('A' ≤ c && c ≤ 'Z') || c == '_' || c == '-'

def isHexDigit (c : Char) : Bool :=
  ('0' ≤ c && c ≤ '9') || ('a' ≤ c && c ≤ 'f') || ('A' ≤ c && c ≤ 'F')

def hexValue (c : Char) : Nat :=
  if c ≤ '9' then c.toNat - 48 else if c ≤ 'F' then c.toNat - 55 else c.toNat - 87

def isPrintable (c : Char) : Bool :=
  let n := c.toNat
  n == 0x09 || n == 0x0A || n == 0x0D || (0x20 ≤ n && n ≤ 0x7E) || n == 0x85 ||
    (0xA0 ≤ n && n ≤ 0xD7FF) || (0xE000 ≤ n && n ≤ 0xFFFD) || (0x10000 ≤ n && n ≤ 0x10FFFF)

/-! ## Reading characters -/

namespace Scan

def peekAt (k : Nat) : ScanM Char := do
  let s ← get
  pure (s.input.getD (s.mark.index + k) '\x00')

def cur : ScanM Char := peekAt 0

def here : ScanM Mark := do pure (← get).mark

def skip : ScanM Unit :=
  modify fun s => { s with mark := { s.mark with index := s.mark.index + 1,
                                                  column := s.mark.column + 1 } }

def read : ScanM Char := do
  let c ← cur
  skip
  pure c

/-- Steps over a line break. -/
def skipLine : ScanM Unit := do
  let c ← cur
  let d ← peekAt 1
  if c == '\r' && d == '\n' then
    modify fun s => { s with mark := { index := s.mark.index + 2, line := s.mark.line + 1,
                                       column := 0 } }
  else if isBreak c then
    modify fun s => { s with mark := { index := s.mark.index + 1, line := s.mark.line + 1,
                                       column := 0 } }

/-- Steps over a line break, giving what it stands for in a scalar: a line feed, or the
line or paragraph separator itself. -/
def readLine : ScanM String := do
  let c ← cur
  if isBreak c then
    skipLine
    pure (if c == '\u2028' || c == '\u2029' then String.singleton c else "\n")
  else pure ""

def fail {α : Type} (context : Option String) (contextMark : Mark) (problem : String) :
    ScanM α := do
  throw { problem, problemMark := (← here), context, contextMark }

/-- Whether the next three characters are the document marker `---` or `...` at the start
of a line, followed by a blank or the end. -/
def atDocumentIndicator : ScanM Bool := do
  let m ← here
  let (a, b, c, d) := (← peekAt 0, ← peekAt 1, ← peekAt 2, ← peekAt 3)
  pure (m.column == 0 && ((a == '-' && b == '-' && c == '-') || (a == '.' && b == '.' && c == '.'))
    && isBlankZ d)

/-! ## The token queue -/

def enqueue (kind : TokenKind) (start stop : Mark) : ScanM Unit :=
  modify fun s => { s with tokens := s.tokens ++ [⟨kind, start, stop⟩] }

def insertAt (i : Nat) (kind : TokenKind) (start stop : Mark) : ScanM Unit :=
  modify fun s => { s with tokens := s.tokens.take i ++ [⟨kind, start, stop⟩] ++ s.tokens.drop i }

/-! ## Simple keys -/

/-- A simple key must stay on one line and within 1024 characters; a candidate that can no
longer be one is dropped, and an error if it was required. -/
def staleSimpleKeys : ScanM Unit := do
  let s ← get
  let m := s.mark
  let isStale := fun (k : SimpleKey) =>
    k.possible && (k.mark.line < m.line || k.mark.index + 1024 < m.index)
  let blocking := s.simpleKeys.reverse.find? (fun k => isStale k && k.required)
  match blocking with
  | some k => throw { problem := "could not find expected ':'", problemMark := m,
                      context := some "while scanning a simple key", contextMark := k.mark }
  | none =>
    let keys := s.simpleKeys.map (fun k => if isStale k then { k with possible := false } else k)
    set { s with simpleKeys := keys }

/-- Drops the innermost candidate; an error if it was required. -/
def removeSimpleKey : ScanM Unit := do
  let s ← get
  match s.simpleKeys with
  | k :: rest =>
    if k.possible && k.required then
      throw { problem := "could not find expected ':'", problemMark := s.mark,
              context := some "while scanning a simple key", contextMark := k.mark }
    set { s with simpleKeys := { k with possible := false } :: rest }
  | [] => pure ()

/-- Remembers that a simple key may start here. It is required when it stands at the
indentation of a block collection. -/
def saveSimpleKey : ScanM Unit := do
  let s ← get
  let required := s.flowLevel == 0 && s.indent == (s.mark.column : Int)
  if s.simpleKeyAllowed then
    let key : SimpleKey := { possible := true, required,
                             tokenNumber := s.tokensParsed + s.tokens.length, mark := s.mark }
    removeSimpleKey
    modify fun s => { s with simpleKeys := match s.simpleKeys with
      | _ :: rest => key :: rest
      | [] => [key] }

def increaseFlowLevel : ScanM Unit :=
  modify fun s => { s with simpleKeys := {} :: s.simpleKeys, flowLevel := s.flowLevel + 1 }

def decreaseFlowLevel : ScanM Unit :=
  modify fun s =>
    if s.flowLevel > 0 then { s with flowLevel := s.flowLevel - 1, simpleKeys := s.simpleKeys.tail }
    else s

/-! ## Indentation -/

/-- In block context, opens a collection when `column` is deeper than the current level; the
start token goes at the end of the queue or at the place of a saved token number. -/
def rollIndent (column : Int) (number : Option Nat) (kind : TokenKind) (mark : Mark) :
    ScanM Unit := do
  let s ← get
  if s.flowLevel == 0 && s.indent < column then
    set { s with indents := s.indent :: s.indents, indent := column }
    match number with
    | none => enqueue kind mark mark
    | some n => insertAt (n - s.tokensParsed) kind mark mark

/-- Closes the block collections deeper than `column`. -/
def unrollIndentWith : Nat → Int → ScanM Unit
  | 0, _ => pure ()
  | fuel + 1, column => do
    let s ← get
    if s.flowLevel == 0 && s.indent > column then
      enqueue .blockEnd s.mark s.mark
      modify fun s => match s.indents with
        | i :: rest => { s with indent := i, indents := rest }
        | [] => { s with indent := -1 }
      unrollIndentWith fuel column

def unrollIndent (column : Int) : ScanM Unit := do
  unrollIndentWith ((← get).indents.length + 1) column

/-! ## Between tokens -/

/-- Skips blanks, comments and line breaks up to the next token. A tab may not indent a
block line. -/
def scanToNextToken : Nat → ScanM Unit
  | 0 => pure ()
  | fuel + 1 => do
    if (← here).column == 0 && (← cur) == '\uFEFF' then skip
    let rec blanks : Nat → ScanM Unit
      | 0 => pure ()
      | n + 1 => do
        let s ← get
        let c ← cur
        if c == ' ' || ((s.flowLevel > 0 || !s.simpleKeyAllowed) && c == '\t') then
          skip
          blanks n
    blanks fuel
    if (← cur) == '#' then
      let rec comment : Nat → ScanM Unit
        | 0 => pure ()
        | n + 1 => do
          if !isBreakZ (← cur) then
            skip
            comment n
      comment fuel
    if isBreak (← cur) then
      skipLine
      if (← get).flowLevel == 0 then modify fun s => { s with simpleKeyAllowed := true }
      scanToNextToken fuel

/-- Reads the characters of an anchor or directive name. -/
def readWord : Nat → String → ScanM String
  | 0, acc => pure acc
  | n + 1, acc => do
    let c ← cur
    if isWordChar c then
      skip
      readWord n (acc.push c)
    else pure acc

/-- Skips blanks. -/
def skipBlanks : Nat → ScanM Unit
  | 0 => pure ()
  | n + 1 => do
    if isBlank (← cur) then
      skip
      skipBlanks n

/-- Skips a comment up to the line break. -/
def skipComment : Nat → ScanM Unit
  | 0 => pure ()
  | n + 1 => do
    if !isBreakZ (← cur) then
      skip
      skipComment n

/-! ## Directives, tags and anchors -/

/-- Reads one number of a version directive. -/
def readVersionNumber (start : Mark) : Nat → Nat → Nat → ScanM Nat
  | 0, _, v => pure v
  | fuel + 1, length, v => do
    let c ← cur
    if c.isDigit then
      if length + 1 > 9 then
        fail (some "while scanning a %YAML directive") start "found extremely long version number"
      skip
      readVersionNumber start fuel (length + 1) (v * 10 + (c.toNat - 48))
    else if length == 0 then
      fail (some "while scanning a %YAML directive") start "did not find expected version number"
    else pure v

/-- Reads the `!`, `!name!` or `!!` handle of a tag. -/
def scanTagHandle (directive : Bool) (start : Mark) (fuel : Nat) : ScanM String := do
  if (← cur) != '!' then
    fail (some (if directive then "while scanning a tag directive" else "while scanning a tag"))
      start "did not find expected '!'"
  skip
  let name ← readWord fuel "!"
  if (← cur) == '!' then
    skip
    pure (name.push '!')
  else
    if directive && name != "!" then
      fail (some "while parsing a tag directive") start "did not find expected '!'"
    pure name

def isUriChar (verbatim : Bool) (c : Char) : Bool :=
  isWordChar c || ";/?:@&=+$.%!~*'()".toList.contains c ||
    (verbatim && ",[]".toList.contains c)

/-- Reads `%XX` escapes forming one UTF-8 character. -/
def scanUriEscapes (directive : Bool) (start : Mark) : Nat → Option Nat → List UInt8 →
    ScanM String
  | 0, _, _ => pure ""
  | fuel + 1, width, bytes => do
    let context := some (if directive then "while parsing a %TAG directive" else "while parsing a tag")
    let (p, a, b) := (← peekAt 0, ← peekAt 1, ← peekAt 2)
    if !(p == '%' && isHexDigit a && isHexDigit b) then
      fail context start "did not find URI escaped octet"
    let octet := hexValue a * 16 + hexValue b
    let width ← match width with
      | some w =>
        if octet / 64 != 2 then fail context start "found an incorrect trailing UTF-8 octet"
        pure w
      | none =>
        let w := if octet / 128 == 0 then 1 else if octet / 32 == 6 then 2
          else if octet / 16 == 14 then 3 else if octet / 8 == 30 then 4 else 0
        if w == 0 then fail context start "found an incorrect leading UTF-8 octet"
        pure w
    skip; skip; skip
    let bytes := bytes ++ [octet.toUInt8]
    if bytes.length == width then
      match String.fromUTF8? (ByteArray.mk bytes.toArray) with
      | some s => pure s
      | none => pure ""
    else scanUriEscapes directive start fuel (some width) bytes

/-- Reads the characters of a tag after its handle. -/
def scanTagUri (verbatim directive : Bool) (head : String) (start : Mark) (fuel : Nat) :
    ScanM String := do
  let rec go : Nat → String → Nat → ScanM (String × Nat)
    | 0, acc, length => pure (acc, length)
    | n + 1, acc, length => do
      let c ← cur
      if isUriChar verbatim c then
        if c == '%' then
          let s ← scanUriEscapes directive start (fuel + 1) none []
          go n (acc ++ s) (length + 1)
        else
          skip
          go n (acc.push c) (length + 1)
      else pure (acc, length)
  let (text, length) ← go fuel (String.ofList (head.toList.drop 1)) head.length
  if length == 0 then
    fail (some (if directive then "while parsing a %TAG directive" else "while parsing a tag"))
      start "did not find expected tag URI"
  pure text

/-- Reads a directive line: `%YAML major.minor` or `%TAG handle tag-prefix`. -/
def scanDirective (fuel : Nat) : ScanM Token := do
  let start ← here
  skip
  let name ← readWord fuel ""
  if name.isEmpty then
    fail (some "while scanning a directive") start "could not find expected directive name"
  if !isBlankZ (← cur) then
    fail (some "while scanning a directive") start "found unexpected non-alphabetical character"
  let kind ← if name == "YAML" then do
      skipBlanks fuel
      let major ← readVersionNumber start fuel 0 0
      if (← cur) != '.' then
        fail (some "while scanning a %YAML directive") start
          "did not find expected digit or '.' character"
      skip
      let minor ← readVersionNumber start fuel 0 0
      pure (TokenKind.versionDirective major minor)
    else if name == "TAG" then do
      skipBlanks fuel
      let handle ← scanTagHandle true start fuel
      if !isBlank (← cur) then
        fail (some "while scanning a %TAG directive") start "did not find expected whitespace"
      skipBlanks fuel
      let pfx ← scanTagUri true true "" start fuel
      if !isBlankZ (← cur) then
        fail (some "while scanning a %TAG directive") start
          "did not find expected whitespace or line break"
      pure (TokenKind.tagDirective handle pfx)
    else fail (some "while scanning a directive") start "found unknown directive name"
  let stop ← here
  skipBlanks fuel
  if (← cur) == '#' then skipComment fuel
  if !isBreakZ (← cur) then
    fail (some "while scanning a directive") start "did not find expected comment or line break"
  if isBreak (← cur) then skipLine
  pure ⟨kind, start, stop⟩

/-- Reads a tag: `!<verbatim>`, `!handle!suffix` or `!suffix`. -/
def scanTag (fuel : Nat) : ScanM Token := do
  let start ← here
  let (handle, suffix) ← if (← peekAt 1) == '<' then do
      skip; skip
      let suffix ← scanTagUri true false "" start fuel
      if (← cur) != '>' then
        fail (some "while scanning a tag") start "did not find the expected '>'"
      skip
      pure ("", suffix)
    else do
      let handle ← scanTagHandle false start fuel
      if handle.length > 1 && handle.startsWith "!" && handle.endsWith "!" then
        pure (handle, ← scanTagUri false false "" start fuel)
      else
        let suffix ← scanTagUri false false handle start fuel
        if suffix.isEmpty then pure ("", "!") else pure ("!", suffix)
  let c ← cur
  if !isBlankZ c && !((← get).flowLevel > 0 && c == ',') then
    fail (some "while scanning a tag") start "did not find expected whitespace or line break"
  pure ⟨.tag handle suffix, start, ← here⟩

/-- Reads an anchor `&name` or an alias `*name`. -/
def scanAnchor (isAlias : Bool) (fuel : Nat) : ScanM Token := do
  let start ← here
  skip
  let name ← readWord fuel ""
  let stop ← here
  let c ← cur
  if name.isEmpty || !(isBlankZ c || "?:,]\x7d%@`".toList.contains c) then
    fail (some (if isAlias then "while scanning an alias" else "while scanning an anchor")) start
      "did not find expected alphabetic or numeric character"
  pure ⟨if isAlias then .alias name else .anchor name, start, stop⟩

/-! ## Scalars -/

/-- What a multi-line scalar has read so far: its text, and the blanks and breaks waiting
to be folded into it. -/
structure Folding where
  text : String := ""
  leadingBreak : String := ""
  trailingBreaks : String := ""
  whitespaces : String := ""
  leadingBlanks : Bool := false
  deriving Inhabited

namespace Folding

/-- Joins the waiting line breaks: a single line feed folds into a space, more breaks stay
as they are. -/
def foldBreaks (f : Folding) : Folding :=
  if f.leadingBreak.startsWith "\n" then
    if f.trailingBreaks.isEmpty then { f with text := f.text.push ' ', leadingBreak := "" }
    else { f with text := f.text ++ f.trailingBreaks, trailingBreaks := "", leadingBreak := "" }
  else
    { f with text := f.text ++ f.leadingBreak ++ f.trailingBreaks, leadingBreak := "",
             trailingBreaks := "" }

def flush (f : Folding) : Folding :=
  if f.leadingBlanks then { f.foldBreaks with leadingBlanks := false }
  else if !f.whitespaces.isEmpty then { f with text := f.text ++ f.whitespaces, whitespaces := "" }
  else f

end Folding

/-- Reads the blanks and breaks after a line of a plain or quoted scalar. In a plain scalar
a tab may not stand where indentation is expected. -/
def scanScalarBlanks (plainIndent : Option Int) (start : Mark) : Nat → Folding → ScanM Folding
  | 0, f => pure f
  | fuel + 1, f => do
    let c ← cur
    if isBlank c then
      if let some indent := plainIndent then
        if f.leadingBlanks && ((← here).column : Int) < indent && c == '\t' then
          fail (some "while scanning a plain scalar") start
            "found a tab character that violates indentation"
      skip
      let f := if f.leadingBlanks then f else { f with whitespaces := f.whitespaces.push c }
      scanScalarBlanks plainIndent start fuel f
    else if isBreak c then
      let br ← readLine
      let f := if f.leadingBlanks then { f with trailingBreaks := f.trailingBreaks ++ br }
        else { f with whitespaces := "", leadingBreak := br, leadingBlanks := true }
      scanScalarBlanks plainIndent start fuel f
    else pure f

/-- Reads the non-blank characters of one line of a plain scalar. Gives `none` as the
error-free stop, and the mark after the last character read. -/
def scanPlainRun (start : Mark) : Nat → Folding → Mark → ScanM (Folding × Mark)
  | 0, f, stop => pure (f, stop)
  | fuel + 1, f, stop => do
    let c ← cur
    if isBlankZ c then return (f, stop)
    let d ← peekAt 1
    let flow := (← get).flowLevel > 0
    if flow && c == ':' && ",?[]\x7b\x7d".toList.contains d then
      fail (some "while scanning a plain scalar") start "found unexpected ':'"
    if (c == ':' && isBlankZ d) || (flow && ",[]\x7b\x7d".toList.contains c) then return (f, stop)
    let f := f.flush
    skip
    scanPlainRun start fuel { f with text := f.text.push c } (← here)

/-- Reads a plain scalar: lines of content joined by folding, ending at a `: `, a comment, a
flow indicator in flow context, or a line indented no deeper than the enclosing block. -/
def scanPlainScalar (fuel : Nat) : ScanM Token := do
  let start ← here
  let indent := (← get).indent + 1
  let rec lines : Nat → Folding → Mark → ScanM (Folding × Mark)
    | 0, f, stop => pure (f, stop)
    | n + 1, f, stop => do
      if (← atDocumentIndicator) then return (f, stop)
      if (← cur) == '#' then return (f, stop)
      let (f, stop) ← scanPlainRun start fuel f stop
      let c ← cur
      if !(isBlank c || isBreak c) then return (f, stop)
      let f ← scanScalarBlanks (some indent) start fuel f
      if (← get).flowLevel == 0 && ((← here).column : Int) < indent then return (f, stop)
      lines n f stop
  let (f, stop) ← lines fuel {} start
  if f.leadingBlanks then modify fun s => { s with simpleKeyAllowed := true }
  pure ⟨.scalar f.text .plain, start, stop⟩

/-- The character a double-quoted escape stands for, or the number of hex digits that
follow it. -/
def escapeOf (c : Char) : Option (Sum Char Nat) :=
  match c with
  | '0' => some (.inl '\x00') | 'a' => some (.inl '\x07') | 'b' => some (.inl '\x08')
  | 't' => some (.inl '\t') | '\t' => some (.inl '\t') | 'n' => some (.inl '\n')
  | 'v' => some (.inl '\x0B') | 'f' => some (.inl '\x0C') | 'r' => some (.inl '\r')
  | 'e' => some (.inl '\x1B') | ' ' => some (.inl ' ') | '"' => some (.inl '"')
  | '/' => some (.inl '/') | '\'' => some (.inl '\'') | '\\' => some (.inl '\\')
  | 'N' => some (.inl '\x85') | '_' => some (.inl '\xA0') | 'L' => some (.inl '\u2028')
  | 'P' => some (.inl '\u2029') | 'x' => some (.inr 2) | 'u' => some (.inr 4)
  | 'U' => some (.inr 8)
  | _ => none

/-- Reads `count` hex digits of an escape. -/
def readHexDigits (start : Mark) : Nat → Nat → ScanM Nat
  | 0, v => pure v
  | n + 1, v => do
    let c ← cur
    if !isHexDigit c then
      fail (some "while parsing a quoted scalar") start "did not find expected hexdecimal number"
    skip
    readHexDigits start n (v * 16 + hexValue c)

/-- Reads the non-blank characters of one line of a quoted scalar. Gives whether an escaped
line break ended it. -/
def scanQuotedRun (single : Bool) (start : Mark) : Nat → Folding → ScanM Folding
  | 0, f => pure f
  | fuel + 1, f => do
    let c ← cur
    if isBlankZ c then return f
    let d ← peekAt 1
    if single && c == '\'' && d == '\'' then
      skip; skip
      scanQuotedRun single start fuel { f with text := f.text.push '\'' }
    else if c == (if single then '\'' else '"') then return f
    else if !single && c == '\\' && isBreak d then
      skip
      skipLine
      return { f with leadingBlanks := true }
    else if !single && c == '\\' then
      match escapeOf d with
      | none => fail (some "while parsing a quoted scalar") start "found unknown escape character"
      | some (.inl e) =>
        skip; skip
        scanQuotedRun single start fuel { f with text := f.text.push e }
      | some (.inr width) =>
        skip; skip
        let v ← readHexDigits start width 0
        if (0xD800 ≤ v && v ≤ 0xDFFF) || v > 0x10FFFF then
          fail (some "while parsing a quoted scalar") start
            "found invalid Unicode character escape code"
        scanQuotedRun single start fuel { f with text := f.text.push (Char.ofNat v) }
    else
      skip
      scanQuotedRun single start fuel { f with text := f.text.push c }

/-- Reads a single- or double-quoted scalar. -/
def scanFlowScalar (single : Bool) (fuel : Nat) : ScanM Token := do
  let start ← here
  skip
  let context := some "while scanning a quoted scalar"
  let rec lines : Nat → Folding → ScanM Folding
    | 0, f => pure f
    | n + 1, f => do
      if (← atDocumentIndicator) then fail context start "found unexpected document indicator"
      if isEnd (← cur) then fail context start "found unexpected end of stream"
      let f ← scanQuotedRun single start fuel { f with leadingBlanks := false }
      if (← cur) == (if single then '\'' else '"') then return f
      let f ← scanScalarBlanks none start fuel f
      let f := if f.leadingBlanks then f.foldBreaks
        else { f with text := f.text ++ f.whitespaces, whitespaces := "" }
      lines n f
  let f ← lines fuel {}
  skip
  pure ⟨.scalar f.text (if single then .singleQuoted else .doubleQuoted), start, ← here⟩

/-- Reads the indentation and empty lines before a line of a block scalar, and settles an
unknown indentation at the deepest column met, at least one deeper than the enclosing block. -/
def blockScalarBreaks (start : Mark) (blockIndent : Int) (fuel : Nat) (indent : Nat) :
    ScanM (Nat × String × Mark) := do
  let rec go : Nat → String → Nat → Mark → ScanM (String × Nat × Mark)
    | 0, breaks, maxIndent, stop => pure (breaks, maxIndent, stop)
    | n + 1, breaks, maxIndent, stop => do
      let rec spaces : Nat → ScanM Unit
        | 0 => pure ()
        | k + 1 => do
          if (indent == 0 || (← here).column < indent) && (← cur) == ' ' then
            skip
            spaces k
      spaces fuel
      let column := (← here).column
      let maxIndent := max maxIndent column
      if (indent == 0 || column < indent) && (← cur) == '\t' then
        fail (some "while scanning a block scalar") start
          "found a tab character where an indentation space is expected"
      if !isBreak (← cur) then pure (breaks, maxIndent, stop)
      else
        let br ← readLine
        go n (breaks ++ br) maxIndent (← here)
  let (breaks, maxIndent, stop) ← go fuel "" 0 (← here)
  if indent == 0 then
    let i : Int := max (max (maxIndent : Int) (blockIndent + 1)) 1
    pure (i.toNat, breaks, stop)
  else pure (indent, breaks, stop)

/-- Reads a literal (`|`) or folded (`>`) block scalar with its chomping and indentation
indicators. -/
def scanBlockScalar (literal : Bool) (fuel : Nat) : ScanM Token := do
  let start ← here
  skip
  let context := some "while scanning a block scalar"
  let chompOf (c : Char) : Int := if c == '+' then 1 else -1
  let (chomping, increment) ← do
    let c ← cur
    if c == '+' || c == '-' then
      skip
      let d ← cur
      if d.isDigit then
        if d == '0' then fail context start "found an indentation indicator equal to 0"
        skip
        pure (chompOf c, d.toNat - 48)
      else pure (chompOf c, 0)
    else if c.isDigit then
      if c == '0' then fail context start "found an indentation indicator equal to 0"
      skip
      let d ← cur
      if d == '+' || d == '-' then
        skip
        pure (chompOf d, c.toNat - 48)
      else pure ((0 : Int), c.toNat - 48)
    else pure ((0 : Int), 0)
  skipBlanks fuel
  if (← cur) == '#' then skipComment fuel
  if !isBreakZ (← cur) then
    fail context start "did not find expected comment or line break"
  if isBreak (← cur) then skipLine
  let blockIndent := (← get).indent
  let indent : Nat :=
    if increment == 0 then 0
    else if blockIndent ≥ 0 then (blockIndent + increment).toNat else increment
  let (indent, trailing, stop) ← blockScalarBreaks start blockIndent fuel indent
  let rec body : Nat → String → String → String → Bool → Mark → ScanM (String × String × String × Mark)
    | 0, text, leading, trailing, _, stop => pure (text, leading, trailing, stop)
    | n + 1, text, leading, trailing, leadingBlank, stop => do
      if (← here).column != indent || isEnd (← cur) then
        return (text, leading, trailing, stop)
      let trailingBlank := isBlank (← cur)
      let text :=
        if !literal && leading.startsWith "\n" && !leadingBlank && !trailingBlank then
          if trailing.isEmpty then text.push ' ' else text
        else text ++ leading
      let text := text ++ trailing
      let leadingBlank := isBlank (← cur)
      let rec line : Nat → String → ScanM String
        | 0, acc => pure acc
        | k + 1, acc => do
          let c ← cur
          if isBreakZ c then pure acc
          else
            skip
            line k (acc.push c)
      let text ← line fuel text
      let leading ← readLine
      let (_, trailing, stop) ← blockScalarBreaks start blockIndent fuel indent
      body n text leading trailing leadingBlank stop
  let (text, leading, trailing, stop) ← body fuel "" "" trailing false stop
  let text := if chomping != -1 then text ++ leading else text
  let text := if chomping == 1 then text ++ trailing else text
  pure ⟨.scalar text (if literal then .literal else .folded), start, stop⟩

/-! ## Fetching tokens -/

def fetchStreamStart : ScanM Unit := do
  let m ← here
  modify fun s => { s with indent := -1, simpleKeys := [{}], simpleKeyAllowed := true,
                           streamStartProduced := true }
  enqueue .streamStart m m

/-- The last token; the end counts as the start of a new line. -/
def fetchStreamEnd : ScanM Unit := do
  modify fun s =>
    if s.mark.column != 0 then
      { s with mark := { s.mark with column := 0, line := s.mark.line + 1 } }
    else s
  unrollIndent (-1)
  removeSimpleKey
  modify fun s => { s with simpleKeyAllowed := false }
  let m ← here
  enqueue .streamEnd m m

def fetchIndicator (kind : TokenKind) (width : Nat) : ScanM Unit := do
  let start ← here
  for _ in [0:width] do skip
  enqueue kind start (← here)

/-- Reads the next token into the queue. -/
def fetchNextToken (fuel : Nat) : ScanM Unit := do
  if !(← get).streamStartProduced then return ← fetchStreamStart
  scanToNextToken fuel
  staleSimpleKeys
  unrollIndent (← here).column
  let c ← cur
  let d ← peekAt 1
  let s ← get
  let flow := s.flowLevel > 0
  let column := (← here).column
  if isEnd c then fetchStreamEnd
  else if column == 0 && c == '%' then
    unrollIndent (-1)
    removeSimpleKey
    modify fun s => { s with simpleKeyAllowed := false }
    let t ← scanDirective fuel
    enqueue t.kind t.start t.stop
  else if (← atDocumentIndicator) then
    unrollIndent (-1)
    removeSimpleKey
    modify fun s => { s with simpleKeyAllowed := false }
    fetchIndicator (if c == '-' then .documentStart else .documentEnd) 3
  else if c == '[' || c == '{' then
    saveSimpleKey
    increaseFlowLevel
    modify fun s => { s with simpleKeyAllowed := true }
    fetchIndicator (if c == '[' then .flowSequenceStart else .flowMappingStart) 1
  else if c == ']' || c == '}' then
    removeSimpleKey
    decreaseFlowLevel
    modify fun s => { s with simpleKeyAllowed := false }
    fetchIndicator (if c == ']' then .flowSequenceEnd else .flowMappingEnd) 1
  else if c == ',' then
    removeSimpleKey
    modify fun s => { s with simpleKeyAllowed := true }
    fetchIndicator .flowEntry 1
  else if c == '-' && isBlankZ d then
    if !flow then
      if !s.simpleKeyAllowed then
        fail none {} "block sequence entries are not allowed in this context"
      rollIndent column none .blockSequenceStart (← here)
    removeSimpleKey
    modify fun s => { s with simpleKeyAllowed := true }
    fetchIndicator .blockEntry 1
  else if c == '?' && (flow || isBlankZ d) then
    if !flow then
      if !s.simpleKeyAllowed then
        fail none {} "mapping keys are not allowed in this context"
      rollIndent column none .blockMappingStart (← here)
    removeSimpleKey
    modify fun s => { s with simpleKeyAllowed := !flow }
    fetchIndicator .key 1
  else if c == ':' && (flow || isBlankZ d) then
    match s.simpleKeys with
    | k :: rest =>
      if k.possible then
        insertAt (k.tokenNumber - s.tokensParsed) .key k.mark k.mark
        rollIndent k.mark.column (some k.tokenNumber) .blockMappingStart k.mark
        modify fun s => { s with simpleKeys := { k with possible := false } :: rest,
                                 simpleKeyAllowed := false }
      else
        if !flow then
          if !s.simpleKeyAllowed then
            fail none {} "mapping values are not allowed in this context"
          rollIndent column none .blockMappingStart (← here)
        modify fun s => { s with simpleKeyAllowed := !flow }
    | [] => pure ()
    fetchIndicator .value 1
  else if c == '*' || c == '&' then
    saveSimpleKey
    modify fun s => { s with simpleKeyAllowed := false }
    let t ← scanAnchor (c == '*') fuel
    enqueue t.kind t.start t.stop
  else if c == '!' then
    saveSimpleKey
    modify fun s => { s with simpleKeyAllowed := false }
    let t ← scanTag fuel
    enqueue t.kind t.start t.stop
  else if (c == '|' || c == '>') && !flow then
    removeSimpleKey
    modify fun s => { s with simpleKeyAllowed := true }
    let t ← scanBlockScalar (c == '|') fuel
    enqueue t.kind t.start t.stop
  else if c == '\'' || c == '"' then
    saveSimpleKey
    modify fun s => { s with simpleKeyAllowed := false }
    let t ← scanFlowScalar (c == '\'') fuel
    enqueue t.kind t.start t.stop
  else if !(isBlankZ c || "-?:,[]\x7b\x7d#&*!|>'\"%@`".toList.contains c) ||
      (c == '-' && !isBlank d) || (!flow && (c == '?' || c == ':') && !isBlankZ d) then
    saveSimpleKey
    modify fun s => { s with simpleKeyAllowed := false }
    let t ← scanPlainScalar fuel
    enqueue t.kind t.start t.stop
  else
    fail (some "while scanning for the next token") (← here)
      "found character that cannot start any token"

/-- Reads tokens until the first one in the queue can no longer be preceded by a KEY. -/
def fetchMoreTokens (fuel : Nat) : Nat → ScanM Unit
  | 0 => pure ()
  | n + 1 => do
    let need ← do
      let s ← get
      if s.tokens.isEmpty then pure true
      else
        staleSimpleKeys
        let s ← get
        pure (s.simpleKeys.any fun k => k.possible && k.tokenNumber == s.tokensParsed)
    if need then
      fetchNextToken fuel
      fetchMoreTokens fuel n
    else modify fun s => { s with tokenAvailable := true }

end Scan

namespace Scanner

def start (text : String) : Scanner := { input := text.toList.toArray }

def badCharacter? (text : String) : Option Nat :=
  let rec go : List Char → Nat → Option Nat
    | [], _ => none
    | c :: cs, offset => if isPrintable c then go cs (offset + c.utf8Size) else some offset
  go text.toList 0

def fuel (s : Scanner) : Nat := 4 * s.input.size + 16

end Scanner

/-- The next token, scanning as far as needed. -/
def peekToken : ScanM Token := do
  let s ← get
  if !s.tokenAvailable then Scan.fetchMoreTokens s.fuel s.fuel
  match (← get).tokens with
  | t :: _ => pure t
  | [] => pure ⟨.streamEnd, (← get).mark, (← get).mark⟩

/-- Takes the next token. -/
def skipToken : ScanM Unit :=
  modify fun s =>
    match s.tokens with
    | t :: rest =>
      { s with tokens := rest, tokenAvailable := false, tokensParsed := s.tokensParsed + 1,
               streamEndProduced := t.kind == .streamEnd }
    | [] => { s with tokenAvailable := false }

end Yaml

end ControlPlane
