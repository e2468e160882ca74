import ControlPlane.Program.Log
import ControlPlane.Text.BooleanProperty
import ControlPlane.Text.Category
import ControlPlane.Text.Ranges

/-!
# Log filters

Which events a program writes is decided by a filter, a list of directives. A directive names
a target (every target, when it names none), may name fields an event must have, and gives the
most verbose level it lets through, or none at all (`off`). For an event, the most specific
directive whose target starts the event's target and whose fields the event has decides; with
no such directive the event is not written. A longer target is more specific, then more
fields; adding a directive with the same target and fields as one already there replaces it.

Directives are written as text, separated by commas:

* `info`, `3`, `off`: a level for every target (levels by name in any case, or `0` for off
  to `5` for trace);
* `name` or `name=level`: a level for a target, every level when none is given;
* `[span{field,other=value}]=level` or `name[span]=level`: a level inside a span, or for
  events with fields.

A directive that cannot be read is left out with a warning. The reading walks the trimmed
text but cuts its pieces from the untrimmed text at the same offsets, so blanks around a
directive move its pieces.

A directive that names a span or a field value applies only inside spans; the program opens
none, so such directives never let an event through.
-/

namespace ControlPlane

abbrev LevelFilter := Option LogLevel

namespace LevelFilter

def admits (f : LevelFilter) (l : LogLevel) : Bool :=
  match f with
  | none => false
  | some t => t.admits l

/-- The value of a text that is an unsigned number, an optional `+` and at least one decimal
digit, below `2 ^ 64`. -/
def readCount? (s : String) : Option Nat :=
  let digits := match s.toList with
    | '+' :: rest => rest
    | cs => cs
  if digits.isEmpty || !digits.all Char.isDigit then none
  else
    let n := digits.foldl (fun n c => n * 10 + (c.toNat - '0'.toNat)) 0
    if n < Nat.pow 2 64 then some n else none

/-- Reads a level filter: a number from `0` (off) to `5` (trace), a level name or `off` in any
case, or the empty text, which means `error`. -/
def read? (s : String) : Option LevelFilter :=
  match readCount? s with
  | some 0 => some none
  | some 1 => some (some .error)
  | some 2 => some (some .warn)
  | some 3 => some (some .info)
  | some 4 => some (some .debug)
  | some 5 => some (some .trace)
  | _ =>
    match s.toLower with
    | "" => some (some .error)
    | "error" => some (some .error)
    | "warn" => some (some .warn)
    | "info" => some (some .info)
    | "debug" => some (some .debug)
    | "trace" => some (some .trace)
    | "off" => some none
    | _ => none

end LevelFilter

/-- A field a directive asks for: its name, and the value it must have, if one is given. -/
structure FieldFilter where
  name : String
  value : Option String
  deriving Inhabited, BEq

def FieldFilter.read (s : String) : FieldFilter :=
  match s.splitOn "=" with
  | name :: value :: _ => ⟨name, some value⟩
  | [name] => ⟨name, none⟩
  | [] => ⟨"", none⟩

/-- One directive of a filter. -/
structure LogDirective where
  target : Option String := none
  span : Option String := none
  fields : List FieldFilter := []
  level : LevelFilter := some .trace
  deriving Inhabited

/-- Why a directive could not be read. -/
inductive DirectiveError where
  /-- The text is not a directive. -/
  | malformed
  /-- The level is not a level. -/
  | badLevel
  deriving Inhabited, BEq

def DirectiveError.message : DirectiveError → String
  | .malformed => "invalid filter directive"
  | .badLevel =>
    "error parsing level filter: expected one of \"off\", \"error\", \"warn\", \"info\", " ++
      "\"debug\", \"trace\", or a number 0-5"

/-- Where the reading of a directive stands, with the byte offsets where open pieces start. -/
inductive DirectiveState where
  | start
  | levelOrTarget (start : Nat)
  | span (start : Nat)
  | field (start : Nat)
  | fields
  | target
  | level (start : Nat)
  | complete
  deriving Inhabited

/-- Whether a character is a letter or a number of any script. -/
def isAlphanumeric (c : Char) : Bool :=
  c.isAlphanum ||
    (c.toNat ≥ 0x80 &&
      (Text.inRanges ((Text.booleanPropertyRanges? "Alphabetic").getD []) c.toNat ||
        ["Decimal_Number", "Letter_Number", "Other_Number"].any fun cat =>
          Text.inRanges ((Text.singleCategory? cat).getD []) c.toNat))

def byteSlice (s : String) (lo hi : Nat) : String :=
  (String.fromUTF8? (s.toUTF8.extract lo hi)).getD ""

def byteSliceFrom (s : String) (lo : Nat) : String := byteSlice s lo s.utf8ByteSize

/-- A level or a target, read from the text of a directive that has no `=`: a level for every
target when it reads as one, else a target with every level. -/
def levelOrTarget (piece : String) : LevelFilter × Option String :=
  if piece.isEmpty then (some .trace, none)
  else
    match LevelFilter.read? piece with
    | some l => (l, none)
    | none => (some .trace, some piece)

def levelAfterEquals (piece : String) : Except DirectiveError LevelFilter :=
  if piece.isEmpty then pure (some .trace)
  else match LevelFilter.read? piece with
    | some l => pure l
    | none => throw .badLevel

/-- One character of a directive, at a byte offset of the trimmed text; pieces are cut from
the untrimmed text `src`. -/
def directiveStep (src : String) (st : DirectiveState × LogDirective) (ci : Char × Nat) :
    Except DirectiveError (DirectiveState × LogDirective) :=
  let (state, d) := st
  let (c, i) := ci
  match state, c with
  | .start, '[' => pure (.span (i + 1), d)
  | .start, c =>
    if c != '-' && c != ':' && c != '_' && !isAlphanumeric c then throw .malformed
    else pure (.levelOrTarget i, d)
  | .levelOrTarget s, '=' => pure (.level (i + 1), { d with target := some (byteSlice src s i) })
  | .levelOrTarget s, '[' => pure (.span (i + 1), { d with target := some (byteSlice src s i) })
  | .levelOrTarget s, ',' =>
    let (level, target) := levelOrTarget (byteSliceFrom src s)
    pure (.complete, { d with level, target })
  | .levelOrTarget s, _ => pure (.levelOrTarget s, d)
  | .target, '=' => pure (.level (i + 1), d)
  | .span s, ']' => pure (.target, { d with span := some (byteSlice src s i) })
  | .span s, '{' =>
    let name := byteSlice src s i
    pure (.field (i + 1), { d with span := if name.isEmpty then none else some name })
  | .span s, _ => pure (.span s, d)
  | .field s, '}' =>
    let piece := byteSlice src s i
    if piece.isEmpty then throw .malformed
    else pure (.fields, { d with fields := d.fields ++ [FieldFilter.read piece] })
  | .field s, ',' =>
    let piece := byteSlice src s i
    if piece.isEmpty then throw .malformed
    else pure (.field (i + 1), { d with fields := d.fields ++ [FieldFilter.read piece] })
  | .field s, _ => pure (.field s, d)
  | .fields, ']' => pure (.target, d)
  | .level s, ',' => do
    let level ← levelAfterEquals (byteSlice src s i)
    pure (.complete, { d with level })
  | .level s, _ => pure (.level s, d)
  | _, _ => throw .malformed

def withOffsets : List Char → Nat → List (Char × Nat)
  | [], _ => []
  | c :: cs, i => (c, i) :: withOffsets cs (i + c.utf8Size)

/-- Reads one directive. -/
def LogDirective.read (src : String) : Except DirectiveError LogDirective := do
  let trimmed := (src.toList.dropWhile Text.isWhiteSpace).reverse.dropWhile Text.isWhiteSpace
  let (state, d) ← (withOffsets trimmed.reverse 0).foldlM (directiveStep src) (.start, {})
  match state with
  | .levelOrTarget s =>
    let (level, target) := levelOrTarget (byteSliceFrom src s)
    pure { d with level, target }
  | .level s =>
    let level ← levelAfterEquals (byteSliceFrom src s)
    pure { d with level }
  | .target | .complete => pure d
  | _ => throw .malformed

/-- A directive that applies outside spans: the target, the names of the fields an event must
have, and the level. -/
structure StaticDirective where
  target : Option String
  fieldNames : List String
  level : LevelFilter
  deriving Inhabited

/-- Compares two lists of texts, item by item. -/
def compareTexts : List String → List String → Ordering
  | [], [] => .eq
  | [], _ :: _ => .lt
  | _ :: _, [] => .gt
  | a :: as, b :: bs =>
    match compare a b with
    | .eq => compareTexts as bs
    | o => o

namespace StaticDirective

/-- How specific a directive is, compared with another: by the length of the target (none is
least), then by the number of fields, then by the target and the field names themselves. -/
def specificity (a b : StaticDirective) : Ordering :=
  let len : Option String → Nat := fun t => (t.map (·.utf8ByteSize + 1)).getD 0
  match compare (len a.target) (len b.target) with
  | .eq =>
    match compare a.fieldNames.length b.fieldNames.length with
    | .eq =>
      let byTarget : Ordering := match a.target, b.target with
        | none, none => .eq
        | none, some _ => .lt
        | some _, none => .gt
        | some x, some y => compare x y
      match byTarget with
      | .eq => compareTexts a.fieldNames b.fieldNames
      | o => o
    | o => o
  | o => o

/-- Whether a directive speaks of an event: its target starts the event's target and the event
has its fields, the message among them. -/
def concerns (d : StaticDirective) (e : LogEvent) : Bool :=
  (match d.target with
   | some t => e.target.startsWith t
   | none => true) &&
    d.fieldNames.all fun n => n == "message" || e.fields.any (·.1 == n)

end StaticDirective

def LogDirective.static? (d : LogDirective) : Option StaticDirective :=
  if d.span.isNone && d.fields.all (·.value.isNone) then
    some ⟨d.target, d.fields.map (·.name), d.level⟩
  else none

/-- A filter: its directives that apply outside spans, the most specific first. -/
structure LogFilter where
  directives : List StaticDirective := []
  deriving Inhabited

namespace LogFilter

/-- Places a directive by its specificity, replacing one of the same target and fields. -/
def insert (d : StaticDirective) : List StaticDirective → List StaticDirective
  | [] => [d]
  | x :: xs =>
    match StaticDirective.specificity d x with
    | .eq => d :: xs
    | .gt => d :: x :: xs
    | .lt => x :: insert d xs

def add (f : LogFilter) (d : LogDirective) : LogFilter :=
  match d.static? with
  | some s => { directives := insert s f.directives }
  | none => f

def admits (f : LogFilter) (e : LogEvent) : Bool :=
  match f.directives.find? (·.concerns e) with
  | some d => d.level.admits e.level
  | none => false

/-- Reads a comma-separated list of directives, leaving out the empty ones, and gives the
filter with the warnings for those that could not be read. -/
def read (spec : String) : LogFilter × List String :=
  (spec.splitOn ",").foldl (fun (f, warnings) piece =>
    if piece.isEmpty then (f, warnings)
    else match LogDirective.read piece with
      | .ok d => (f.add d, warnings)
      | .error e => (f, warnings ++ ["ignoring `" ++ piece ++ "`: " ++ e.message])) ({}, [])

end LogFilter

/-- How a program writes its log: the filter, the style and the time stamp. -/
structure Logger where
  filter : LogFilter := {}
  style : LogStyle := .coloured
  stamp : String := ""
  deriving Inhabited

def Logger.write (lg : Logger) (events : List LogEvent) : String :=
  String.join ((events.filter lg.filter.admits).map (·.render lg.style lg.stamp))

end ControlPlane
