import ControlPlane.Yaml.Scanner

/-!
# YAML parser

The second stage of reading a YAML text: tokens become events. An event opens or closes a
stream, a document, a sequence or a mapping, or stands for a scalar or an alias. The parser
is the reference parser's state machine: a current state and a stack of states to return to,
and a stack of marks where the open collections started, which its messages quote.

Empty nodes are made explicit: a key without a value, an entry without content or a
document without a body each give an empty plain scalar.
-/

namespace ControlPlane

namespace Yaml

/-- The kinds of event. -/
inductive EventKind where
  | streamStart | streamEnd
  | documentStart | documentEnd
  | alias (name : String)
  | scalar (anchor tag : Option String) (text : String) (style : ScalarStyle)
  | sequenceStart (anchor tag : Option String)
  | sequenceEnd
  | mappingStart (anchor tag : Option String)
  | mappingEnd
  deriving Inhabited

/-- An event and the mark where it starts. -/
structure Event where
  kind : EventKind
  start : Mark
  deriving Inhabited

/-- What the parser expects next. -/
inductive ParseState where
  | streamStart | implicitDocumentStart | documentStart | documentContent | documentEnd
  | blockNode | blockNodeOrIndentlessSequence | flowNode
  | blockSequenceFirstEntry | blockSequenceEntry | indentlessSequenceEntry
  | blockMappingFirstKey | blockMappingKey | blockMappingValue
  | flowSequenceFirstEntry | flowSequenceEntry
  | flowSequenceEntryMappingKey | flowSequenceEntryMappingValue | flowSequenceEntryMappingEnd
  | flowMappingFirstKey | flowMappingKey | flowMappingValue | flowMappingEmptyValue
  | finished
  deriving Inhabited, BEq

/-- The parser's state. -/
structure Parser where
  scanner : Scanner
  state : ParseState := .streamStart
  states : List ParseState := []
  marks : List Mark := []
  tagDirectives : List (String × String) := []
  deriving Inhabited

abbrev ParseM := StateT Parser (Except SyntaxError)

namespace Parse

/-- Runs a scanner step inside the parser. -/
def scan {α : Type} (m : ScanM α) : ParseM α := do
  let p ← get
  match m.run p.scanner with
  | .ok (a, s) =>
    set { p with scanner := s }
    pure a
  | .error e => throw e

def peek : ParseM Token := scan peekToken

def next : ParseM Unit := scan skipToken

def fail {α : Type} (problem : String) (mark : Mark) : ParseM α :=
  throw { problem, problemMark := mark }

def failIn {α : Type} (context : String) (contextMark : Mark) (problem : String) (mark : Mark) :
    ParseM α :=
  throw { problem, problemMark := mark, context := some context, contextMark }

def popState : ParseM Unit :=
  modify fun p => match p.states with
    | s :: rest => { p with state := s, states := rest }
    | [] => { p with state := .finished }

def pushState (s : ParseState) : ParseM Unit :=
  modify fun p => { p with states := s :: p.states }

/-- Takes the mark of the innermost open collection. -/
def popMark : ParseM Mark := do
  let p ← get
  match p.marks with
  | m :: rest =>
    set { p with marks := rest }
    pure m
  | [] => pure {}

def pushMark (m : Mark) : ParseM Unit := modify fun p => { p with marks := m :: p.marks }

def emptyScalar (mark : Mark) : Event := ⟨.scalar none none "" .plain, mark⟩

def defaultTagDirectives : List (String × String) := [("!", "!"), ("!!", "tag:yaml.org,2002:")]

/-- Reads the `%YAML` and `%TAG` directives before a document, then adds the default tag
handles. -/
def processDirectives (fuel : Nat) : ParseM Unit := do
  let rec go : Nat → Bool → ParseM Unit
    | 0, _ => pure ()
    | n + 1, seenVersion => do
      let t ← peek
      match t.kind with
      | .versionDirective major minor =>
        if seenVersion then fail "found duplicate %YAML directive" t.start
        if major != 1 || (minor != 1 && minor != 2) then
          fail "found incompatible YAML document" t.start
        next
        go n true
      | .tagDirective handle tagPrefix =>
        if (← get).tagDirectives.any (·.1 == handle) then
          fail "found duplicate %TAG directive" t.start
        modify fun p => { p with tagDirectives := p.tagDirectives ++ [(handle, tagPrefix)] }
        next
        go n seenVersion
      | _ => pure ()
  go fuel false
  for d in defaultTagDirectives do
    if !(← get).tagDirectives.any (·.1 == d.1) then
      modify fun p => { p with tagDirectives := p.tagDirectives ++ [d] }

def isDocumentBoundary : TokenKind → Bool
  | .versionDirective _ _ | .tagDirective _ _ | .documentStart | .streamEnd => true
  | _ => false

/-- The start of a document: implicit when content comes first, explicit after `---`. -/
def documentStart (implicit : Bool) (fuel : Nat) : ParseM Event := do
  let rec skipEnds : Nat → ParseM Token
    | 0 => peek
    | n + 1 => do
      let t ← peek
      if t.kind == .documentEnd then
        next
        skipEnds n
      else pure t
  let t ← if implicit then peek else skipEnds fuel
  if implicit && !isDocumentBoundary t.kind then
    processDirectives fuel
    pushState .documentEnd
    modify fun p => { p with state := .blockNode }
    pure ⟨.documentStart, t.start⟩
  else if t.kind != .streamEnd then
    let start := t.start
    processDirectives fuel
    let t ← peek
    if t.kind != .documentStart then fail "did not find expected <document start>" t.start
    pushState .documentEnd
    modify fun p => { p with state := .documentContent }
    next
    pure ⟨.documentStart, start⟩
  else
    modify fun p => { p with state := .finished }
    next
    pure ⟨.streamEnd, t.start⟩

/-- A node: an alias, or an optionally anchored and tagged scalar or collection. -/
def node (block indentlessSequence : Bool) : ParseM Event := do
  let t ← peek
  if let .alias name := t.kind then
    popState
    next
    return ⟨.alias name, t.start⟩
  let start := t.start
  let (anchor, tag, t) ← match t.kind with
    | .anchor name =>
      next
      let t2 ← peek
      match t2.kind with
      | .tag h s =>
        next
        pure (some name, some (h, s, t2.start), ← peek)
      | _ => pure (some name, none, t2)
    | .tag h s =>
      next
      let t2 ← peek
      match t2.kind with
      | .anchor name =>
        next
        pure (some name, some (h, s, t.start), ← peek)
      | _ => pure (none, some (h, s, t.start), t2)
    | _ => pure (none, none, t)
  let tag ← match tag with
    | none => pure none
    | some (handle, suffix, tagMark) =>
      if handle.isEmpty then pure (some suffix)
      else
        match (← get).tagDirectives.find? (·.1 == handle) with
        | some (_, tagPrefix) => pure (some (tagPrefix ++ suffix))
        | none => failIn "while parsing a node" start "found undefined tag handle" tagMark
  if indentlessSequence && t.kind == .blockEntry then
    modify fun p => { p with state := .indentlessSequenceEntry }
    return ⟨.sequenceStart anchor tag, start⟩
  match t.kind with
  | .scalar text style =>
    popState
    next
    pure ⟨.scalar anchor tag text style, start⟩
  | .flowSequenceStart =>
    modify fun p => { p with state := .flowSequenceFirstEntry }
    pure ⟨.sequenceStart anchor tag, start⟩
  | .flowMappingStart =>
    modify fun p => { p with state := .flowMappingFirstKey }
    pure ⟨.mappingStart anchor tag, start⟩
  | .blockSequenceStart =>
    if block then
      modify fun p => { p with state := .blockSequenceFirstEntry }
      pure ⟨.sequenceStart anchor tag, start⟩
    else failIn "while parsing a flow node" start "did not find expected node content" t.start
  | .blockMappingStart =>
    if block then
      modify fun p => { p with state := .blockMappingFirstKey }
      pure ⟨.mappingStart anchor tag, start⟩
    else failIn "while parsing a flow node" start "did not find expected node content" t.start
  | _ =>
    if anchor.isSome || tag.isSome then
      popState
      pure ⟨.scalar anchor tag "" .plain, start⟩
    else
      failIn (if block then "while parsing a block node" else "while parsing a flow node") start
        "did not find expected node content" t.start

def openCollection : ParseM Unit := do
  let t ← peek
  pushMark t.start
  next

/-- An entry of a block sequence, or its end. -/
def blockSequenceEntry (first : Bool) : ParseM Event := do
  if first then openCollection
  let t ← peek
  match t.kind with
  | .blockEntry =>
    let mark := t.stop
    next
    let t ← peek
    if t.kind != .blockEntry && t.kind != .blockEnd then
      pushState .blockSequenceEntry
      node true false
    else
      modify fun p => { p with state := .blockSequenceEntry }
      pure (emptyScalar mark)
  | .blockEnd =>
    popState
    let _ ← popMark
    next
    pure ⟨.sequenceEnd, t.start⟩
  | _ =>
    let m ← popMark
    failIn "while parsing a block collection" m "did not find expected '-' indicator" t.start

/-- An entry of a sequence written at its mapping key's indentation, or its end. -/
def indentlessSequenceEntry : ParseM Event := do
  let t ← peek
  if t.kind == .blockEntry then
    let mark := t.stop
    next
    let t ← peek
    if t.kind != .blockEntry && t.kind != .key && t.kind != .value && t.kind != .blockEnd then
      pushState .indentlessSequenceEntry
      node true false
    else
      modify fun p => { p with state := .indentlessSequenceEntry }
      pure (emptyScalar mark)
  else
    popState
    pure ⟨.sequenceEnd, t.start⟩

/-- A key of a block mapping, or its end. -/
def blockMappingKey (first : Bool) : ParseM Event := do
  if first then openCollection
  let t ← peek
  match t.kind with
  | .key =>
    let mark := t.stop
    next
    let t ← peek
    if t.kind != .key && t.kind != .value && t.kind != .blockEnd then
      pushState .blockMappingValue
      node true true
    else
      modify fun p => { p with state := .blockMappingValue }
      pure (emptyScalar mark)
  | .blockEnd =>
    popState
    let _ ← popMark
    next
    pure ⟨.mappingEnd, t.start⟩
  | _ =>
    let m ← popMark
    failIn "while parsing a block mapping" m "did not find expected key" t.start

/-- A value of a block mapping. -/
def blockMappingValue : ParseM Event := do
  let t ← peek
  if t.kind == .value then
    let mark := t.stop
    next
    let t ← peek
    if t.kind != .key && t.kind != .value && t.kind != .blockEnd then
      pushState .blockMappingKey
      node true true
    else
      modify fun p => { p with state := .blockMappingKey }
      pure (emptyScalar mark)
  else
    modify fun p => { p with state := .blockMappingKey }
    pure (emptyScalar t.start)

/-- An entry of a flow sequence, or its end. -/
def flowSequenceEntry (first : Bool) : ParseM Event := do
  if first then openCollection
  let t ← peek
  let t ← if t.kind != .flowSequenceEnd && !first then
      if t.kind == .flowEntry then
        next
        peek
      else
        let m ← popMark
        failIn "while parsing a flow sequence" m "did not find expected ',' or ']'" t.start
    else pure t
  if t.kind == .key then
    modify fun p => { p with state := .flowSequenceEntryMappingKey }
    next
    pure ⟨.mappingStart none none, t.start⟩
  else if t.kind != .flowSequenceEnd then
    pushState .flowSequenceEntry
    node false false
  else
    popState
    let _ ← popMark
    next
    pure ⟨.sequenceEnd, t.start⟩

/-- The key of a single-pair mapping inside a flow sequence. -/
def flowSequenceEntryMappingKey : ParseM Event := do
  let t ← peek
  if t.kind != .value && t.kind != .flowEntry && t.kind != .flowSequenceEnd then
    pushState .flowSequenceEntryMappingValue
    node false false
  else
    modify fun p => { p with state := .flowSequenceEntryMappingValue }
    pure (emptyScalar t.start)

/-- The value of a single-pair mapping inside a flow sequence. -/
def flowSequenceEntryMappingValue : ParseM Event := do
  let t ← peek
  if t.kind == .value then
    next
    let t ← peek
    if t.kind != .flowEntry && t.kind != .flowSequenceEnd then
      pushState .flowSequenceEntryMappingEnd
      return ← node false false
    modify fun p => { p with state := .flowSequenceEntryMappingEnd }
    return emptyScalar t.start
  modify fun p => { p with state := .flowSequenceEntryMappingEnd }
  pure (emptyScalar t.start)

def flowSequenceEntryMappingEnd : ParseM Event := do
  let t ← peek
  modify fun p => { p with state := .flowSequenceEntry }
  pure ⟨.mappingEnd, t.start⟩

/-- A key of a flow mapping, or its end. -/
def flowMappingKey (first : Bool) : ParseM Event := do
  if first then openCollection
  let t ← peek
  let t ← if t.kind != .flowMappingEnd && !first then
      if t.kind == .flowEntry then
        next
        peek
      else
        let m ← popMark
        failIn "while parsing a flow mapping" m "did not find expected ',' or '\x7d'" t.start
    else pure t
  if t.kind == .key then
    next
    let t ← peek
    if t.kind != .value && t.kind != .flowEntry && t.kind != .flowMappingEnd then
      pushState .flowMappingValue
      node false false
    else
      modify fun p => { p with state := .flowMappingValue }
      pure (emptyScalar t.start)
  else if t.kind != .flowMappingEnd then
    pushState .flowMappingEmptyValue
    node false false
  else
    popState
    let _ ← popMark
    next
    pure ⟨.mappingEnd, t.start⟩

/-- A value of a flow mapping; empty when the key stood alone. -/
def flowMappingValue (empty : Bool) : ParseM Event := do
  let t ← peek
  if empty then
    modify fun p => { p with state := .flowMappingKey }
    return emptyScalar t.start
  if t.kind == .value then
    next
    let t ← peek
    if t.kind != .flowEntry && t.kind != .flowMappingEnd then
      pushState .flowMappingKey
      return ← node false false
    modify fun p => { p with state := .flowMappingKey }
    return emptyScalar t.start
  modify fun p => { p with state := .flowMappingKey }
  pure (emptyScalar t.start)

/-- The content of an explicit document, which may be empty. -/
def documentContent : ParseM Event := do
  let t ← peek
  match t.kind with
  | .versionDirective _ _ | .tagDirective _ _ | .documentStart | .documentEnd | .streamEnd =>
    popState
    pure (emptyScalar t.start)
  | _ => node true false

def documentEnd : ParseM Event := do
  let t ← peek
  if t.kind == .documentEnd then next
  modify fun p => { p with tagDirectives := [], state := .documentStart }
  pure ⟨.documentEnd, t.start⟩

/-- The first event. -/
def streamStart : ParseM Event := do
  let t ← peek
  if t.kind != .streamStart then fail "did not find expected <stream-start>" t.start
  modify fun p => { p with state := .implicitDocumentStart }
  next
  pure ⟨.streamStart, t.start⟩

end Parse

/-- The next event, or `none` after the stream has ended. -/
def nextEvent : ParseM (Option Event) := do
  let p ← get
  let fuel := p.scanner.fuel
  match p.state with
  | .finished => pure none
  | .streamStart => some <$> Parse.streamStart
  | .implicitDocumentStart => some <$> Parse.documentStart true fuel
  | .documentStart => some <$> Parse.documentStart false fuel
  | .documentContent => some <$> Parse.documentContent
  | .documentEnd => some <$> Parse.documentEnd
  | .blockNode => some <$> Parse.node true false
  | .blockNodeOrIndentlessSequence => some <$> Parse.node true true
  | .flowNode => some <$> Parse.node false false
  | .blockSequenceFirstEntry => some <$> Parse.blockSequenceEntry true
  | .blockSequenceEntry => some <$> Parse.blockSequenceEntry false
  | .indentlessSequenceEntry => some <$> Parse.indentlessSequenceEntry
  | .blockMappingFirstKey => some <$> Parse.blockMappingKey true
  | .blockMappingKey => some <$> Parse.blockMappingKey false
  | .blockMappingValue => some <$> Parse.blockMappingValue
  | .flowSequenceFirstEntry => some <$> Parse.flowSequenceEntry true
  | .flowSequenceEntry => some <$> Parse.flowSequenceEntry false
  | .flowSequenceEntryMappingKey => some <$> Parse.flowSequenceEntryMappingKey
  | .flowSequenceEntryMappingValue => some <$> Parse.flowSequenceEntryMappingValue
  | .flowSequenceEntryMappingEnd => some <$> Parse.flowSequenceEntryMappingEnd
  | .flowMappingFirstKey => some <$> Parse.flowMappingKey true
  | .flowMappingKey => some <$> Parse.flowMappingKey false
  | .flowMappingValue => some <$> Parse.flowMappingValue false
  | .flowMappingEmptyValue => some <$> Parse.flowMappingValue true

end Yaml

end ControlPlane
