import ControlPlane.Yaml.Document
import ControlPlane.Text.Float
import ControlPlane.Text.Quoted

/-!
# Decoding YAML documents into typed values

The last stage of reading settings: the events of the document are read as the fields of
records, lists, optional texts, texts and numbers. Each decoder takes the document and a
position, and gives the value and the position after it.

A failure says where it happened: the path of keys and list indices from the top, and the
mark of the node being read. Failures made while reading a record's entries (a duplicate or
a missing field) take the record's own path and mark.

The rules for what a scalar may become follow the settings reader:

* any scalar reads as a text;
* only a plain scalar reads as a number, in decimal or with a `0x`, `0o` or `0b` base;
* an empty plain scalar or an empty document reads as an empty record or an empty list;
* `~`, `null`, `Null`, `NULL` and the empty plain scalar read as an absent option.
-/

namespace ControlPlane

namespace Yaml

/-- Where a value stands in the document: the keys and indices leading to it. -/
inductive Path where
  | root
  | seq (parent : Path) (index : Nat)
  | map (parent : Path) (key : String)
  | unknown (parent : Path)
  deriving Inhabited, BEq

namespace Path

def render : Path → String
  | .root => "."
  | .seq p i => render p ++ "[" ++ toString i ++ "]"
  | .map p k => (match p with | .root => "" | _ => render p ++ ".") ++ k
  | .unknown p => (match p with | .root => "" | _ => render p ++ ".") ++ "?"

end Path

/-- Why a document could not be decoded. -/
inductive DecodeError where
  /-- A failure of a value, with the mark and path it is reported at once known. -/
  | message (text : String) (place : Option (Mark × Path))
  | load (e : LoadError)
  | endOfStream
  | moreThanOneDocument
  deriving Inhabited

namespace DecodeError

def placed (m : Mark) (p : Path) : DecodeError → DecodeError
  | .message t none => .message t (some (m, p))
  | e => e

/-- The text of a failure. -/
def render : DecodeError → String
  | .message t none => t
  | .message t (some (m, p)) =>
    (if p == .root then "" else p.render ++ ": ") ++ t ++
      (if m.isStart then "" else " at " ++ m.render)
  | .load (.malformed e) => e.render
  | .load (.unknownAnchor m) => "unknown anchor" ++ (if m.isStart then "" else " at " ++ m.render)
  | .endOfStream => "EOF while parsing a value"
  | .moreThanOneDocument =>
    "deserializing from YAML containing more than one document is not supported"

end DecodeError

namespace Document

/-- The event at a position; past the last one, the load error or the end of the stream. -/
def get (d : Document) (pos : Nat) : Except DecodeError (Node × Mark) :=
  match d.events[pos]? with
  | some e => pure e
  | none =>
    match d.error with
    | some e => throw (.load e)
    | none => throw .endOfStream

end Document

/-! ## Scalars -/

namespace Scalar

/-- The value of a digit in a radix of at most 16. -/
def digitValue (radix : Nat) (c : Char) : Option Nat :=
  let v := if c.isDigit then some (c.toNat - 48)
    else if 'a' ≤ c && c ≤ 'z' then some (c.toNat - 87)
    else if 'A' ≤ c && c ≤ 'Z' then some (c.toNat - 55)
    else none
  v.bind fun d => if d < radix then some d else none

/-- Reads an integer in a radix the way the standard reader does: an optional `+` (or `-`
when negative numbers are allowed), then at least one digit, within `[lo, hi]`. -/
def fromRadix (s : String) (radix : Nat) (lo hi : Int) : Option Int :=
  let (negative, ds) := match s.toList with
    | '+' :: r => (false, r)
    | '-' :: r => (true, r)
    | r => (false, r)
  if ds.isEmpty || (negative && lo ≥ 0) then none
  else
    let digits := ds.map (digitValue radix)
    if digits.any Option.isNone then none
    else
      let n : Int := digits.foldl (fun acc d => acc * radix + d.getD 0) 0
      let v := if negative then -n else n
      if lo ≤ v && v ≤ hi then some v else none

/-- Leading zeros followed by digits make a text, not a number. -/
def digitsButNotNumber (s : String) : Bool :=
  let cs := match s.toList with
    | '-' :: r => r
    | '+' :: r => r
    | r => r
  cs.length > 1 && cs.head? == some '0' && (cs.drop 1).all Char.isDigit

def after? (s : String) (start : String) : Option String :=
  if s.startsWith start then some (String.ofList (s.toList.drop start.length)) else none

def signed (s : String) : Bool := s.startsWith "+" || s.startsWith "-"

/-- Reads a non-negative integer of at most `hi`: decimal, or with a `0x`, `0o` or `0b`
base, after an optional `+`. -/
def parseUnsigned (s : String) (hi : Nat) : Option Nat :=
  let unpositive := (after? s "+").getD s
  let based (tag : String) (radix : Nat) : Option (Option Nat) :=
    match after? unpositive tag with
    | some rest =>
      if signed rest then some none
      else (fromRadix rest radix 0 hi).map fun v => some v.toNat
    | none => none
  match based "0x" 16 with
  | some r => r
  | none =>
    match based "0o" 8 with
    | some r => r
    | none =>
      match based "0b" 2 with
      | some r => r
      | none =>
        if signed unpositive || digitsButNotNumber s then none
        else (fromRadix unpositive 10 0 hi).map Int.toNat

/-- Reads an integer within `[lo, hi]`: decimal, or with a base after an optional sign. -/
def parseSigned (s : String) (lo hi : Int) : Option Int :=
  let unpositive? : Option String :=
    match after? s "+" with
    | some r => if signed r then none else some r
    | none => some s
  match unpositive? with
  | none => none
  | some unpositive =>
    let based (tag : String) (radix : Nat) : Option Int :=
      match after? unpositive ("0" ++ tag) with
      | some rest => if signed rest then none else fromRadix rest radix lo hi
      | none =>
        match after? s ("-0" ++ tag) with
        | some rest => fromRadix ("-" ++ rest) radix lo hi
        | none => none
    match based "x" 16 with
    | some v => some v
    | none =>
      match based "o" 8 with
      | some v => some v
      | none =>
        match based "b" 2 with
        | some v => some v
        | none => if digitsButNotNumber s then none else fromRadix unpositive 10 lo hi

/-- Reads a negative integer within `[lo, hi]`. -/
def parseNegative (s : String) (lo hi : Int) : Option Int :=
  let based (tag : String) (radix : Nat) : Option Int :=
    (after? s ("-0" ++ tag)).bind fun rest => fromRadix ("-" ++ rest) radix lo hi
  match based "x" 16 with
  | some v => some v
  | none =>
    match based "o" 8 with
    | some v => some v
    | none =>
      match based "b" 2 with
      | some v => some v
      | none => if digitsButNotNumber s then none else fromRadix s 10 lo hi

def maxU64 : Nat := Nat.pow 2 64 - 1

def maxU128 : Nat := Nat.pow 2 128 - 1

def minI64 : Int := -((Nat.pow 2 63 : Nat) : Int)

def minI128 : Int := -((Nat.pow 2 127 : Nat) : Int)

/-- How an integer scalar is described when it is of the wrong type. -/
def integerWords (s : String) : Option String :=
  match parseUnsigned s maxU64 with
  | some n => some ("integer `" ++ toString n ++ "`")
  | none =>
    match parseNegative s minI64 (((Nat.pow 2 63 : Nat) : Int) - 1) with
    | some n => some ("integer `" ++ toString n ++ "`")
    | none =>
      match parseUnsigned s maxU128 with
      | some n => some ("integer `" ++ toString n ++ "` as u128")
      | none =>
        match parseNegative s minI128 (((Nat.pow 2 127 : Nat) : Int) - 1) with
        | some n => some ("integer `" ++ toString n ++ "` as i128")
        | none => none

def isNull (s : String) : Bool := s == "null" || s == "Null" || s == "NULL" || s == "~"

def boolean? (s : String) : Option Bool :=
  if s == "true" || s == "True" || s == "TRUE" then some true
  else if s == "false" || s == "False" || s == "FALSE" then some false
  else none

/-- Reads a floating-point scalar: the YAML infinities and not-a-number, or a finite
decimal. -/
def float? (s : String) : Option Binary64 :=
  let unpositive? : Option String :=
    match after? s "+" with
    | some r => if signed r then none else some r
    | none => some s
  match unpositive? with
  | none => none
  | some unpositive =>
    if unpositive == ".inf" || unpositive == ".Inf" || unpositive == ".INF" then
      some (.infinite false)
    else if s == "-.inf" || s == "-.Inf" || s == "-.INF" then some (.infinite true)
    else if s == ".nan" || s == ".NaN" || s == ".NAN" then some .nan
    else
      match Binary64.parse? unpositive with
      | some x => if x.isFinite then some x else none
      | none => none

/-- How a scalar is described when it has the wrong type, as the untagged reader sees it. -/
def untaggedWords (s : String) : String :=
  if s.isEmpty || isNull s then "unit value"
  else match boolean? s with
    | some b => "boolean `" ++ toString b ++ "`"
    | none =>
      match integerWords s with
      | some w => w
      | none =>
        match (if digitsButNotNumber s then none else float? s) with
        | some x => "floating point `" ++ x.renderWithPoint ++ "`"
        | none => "string " ++ quoted s

def coreTag (name : String) : String := "tag:yaml.org,2002:" ++ name

/-- The failure for a scalar read as a type it is not. -/
def mismatch (text : String) (style : ScalarStyle) (tag : Option String) (expected : String) :
    String :=
  let wrongType (w : String) := "invalid type: " ++ w ++ ", expected " ++ expected
  let wrongValue (what : String) :=
    "invalid value: string " ++ quoted text ++ ", expected " ++ what
  match tag with
  | some t =>
    if t == coreTag "bool" then
      match boolean? text with
      | some b => wrongType ("boolean `" ++ toString b ++ "`")
      | none => wrongValue "a boolean"
    else if t == coreTag "int" then
      match integerWords text with
      | some w => wrongType w
      | none => wrongValue "an integer"
    else if t == coreTag "float" then
      match float? text with
      | some x => wrongType ("floating point `" ++ x.renderWithPoint ++ "`")
      | none => wrongValue "a float"
    else if t == coreTag "null" then
      if isNull text then wrongType "unit value" else wrongValue "null"
    else if t.startsWith "!" && style == .plain then wrongType (untaggedWords text)
    else wrongType ("string " ++ quoted text)
  | none =>
    if style == .plain then wrongType (untaggedWords text) else wrongType ("string " ++ quoted text)

end Scalar

/-! ## Decoders -/

namespace Decode

/-- The failure for a node read as a type it is not. -/
def invalidType (node : Node) (expected : String) : DecodeError :=
  match node with
  | .scalar text style tag => .message (Scalar.mismatch text style tag expected) none
  | .seqStart => .message ("invalid type: sequence, expected " ++ expected) none
  | .mapStart => .message ("invalid type: map, expected " ++ expected) none
  | _ => .endOfStream

/-- Runs a decoder on the node at a position, following an alias to its anchored node; after
an alias, reading goes on right after it. -/
def follow {α : Type} (d : Document) (pos : Nat) (decode : Nat → Except DecodeError (α × Nat)) : Except DecodeError (α × Nat) := do
  match ← d.get pos with
  | (.alias target, _) =>
    let (v, _) ← decode target
    pure (v, pos + 1)
  | _ => decode pos

/-- Skips one node, nested collections included. -/
def skipNode (d : Document) (pos : Nat) : Except DecodeError Nat := do
  let rec go : Nat → Nat → Nat → Except DecodeError Nat
    | 0, p, _ => pure p
    | fuel + 1, p, depth => do
      let (n, _) ← d.get p
      let depth := match n with
        | .seqStart | .mapStart => depth + 1
        | .seqEnd | .mapEnd => depth - 1
        | _ => depth
      if depth == 0 then pure (p + 1) else go fuel (p + 1) depth
  go (d.events.size + 1) pos 0

def textAs (expected : String) (d : Document) (path : Path) (pos : Nat) : Except DecodeError (String × Nat) :=
  follow d pos fun pos => do
    match ← d.get pos with
    | (.scalar t _ _, _) => pure (t, pos + 1)
    | (n, m) => throw ((invalidType n expected).placed m path)

def text (d : Document) (path : Path) (pos : Nat) : Except DecodeError (String × Nat) := textAs "a string" d path pos

/-- An unsigned integer of at most `hi`, named `name` in failures: a plain scalar. A number
past `hi` but within 64 bits is an invalid value rather than an invalid type. -/
def unsigned (name : String) (hi : Nat) (d : Document) (path : Path) (pos : Nat) :
    Except DecodeError (Nat × Nat) :=
  follow d pos fun pos => do
    let (n, m) ← d.get pos
    let fail (e : DecodeError) : Except DecodeError (Nat × Nat) := throw (e.placed m path)
    match n with
    | .scalar t .plain _ =>
      match Scalar.parseUnsigned t Scalar.maxU64 with
      | some v =>
        if v ≤ hi then pure (v, pos + 1)
        else fail (.message ("invalid value: integer `" ++ toString v ++ "`, expected " ++ name)
          none)
      | none => fail (invalidType n name)
    | _ => fail (invalidType n name)

/-- A signed 64-bit integer: a plain scalar. -/
def signed64 (d : Document) (path : Path) (pos : Nat) : Except DecodeError (Int × Nat) :=
  follow d pos fun pos => do
    let (n, m) ← d.get pos
    match n with
    | .scalar t .plain _ =>
      match Scalar.parseSigned t Scalar.minI64 (((Nat.pow 2 63 : Nat) : Int) - 1) with
      | some v => pure (v, pos + 1)
      | none => throw ((invalidType n "i64").placed m path)
    | _ => throw ((invalidType n "i64").placed m path)

/-- An optional text: absent for a null word or an empty plain scalar. -/
def optionalText (d : Document) (path : Path) (pos : Nat) : Except DecodeError ((Option String) × Nat) :=
  follow d pos fun pos => do
    match ← d.get pos with
    | (.scalar t .plain tag, _) =>
      let present := match tag with
        | some tg => if tg == Scalar.coreTag "null" then !Scalar.isNull t else true
        | none => !t.isEmpty && !Scalar.isNull t
      if present then
        let (v, p) ← text d path pos
        pure (some v, p)
      else pure (none, pos + 1)
    | (.void, _) => pure (none, pos + 1)
    | _ =>
      let (v, p) ← text d path pos
      pure (some v, p)

/-- A list: a sequence whose elements `elem` reads, or no elements for an empty plain scalar
or an empty document. -/
def list {α : Type} (elem : Path → Nat → Except DecodeError (α × Nat)) (d : Document) (path : Path) (pos : Nat) :
    Except DecodeError ((List α) × Nat) :=
  follow d pos fun pos => do
    let (n, m) ← d.get pos
    match n with
    | .seqStart =>
      let rec items : Nat → Nat → List α → Nat → Except DecodeError ((List α) × Nat)
        | 0, p, acc, _ => pure (acc.reverse, p)
        | fuel + 1, p, acc, i => do
          match ← d.get p with
          | (.seqEnd, _) => pure (acc.reverse, p + 1)
          | _ =>
            let (v, next) ← elem (.seq path i) p
            items fuel next (v :: acc) (i + 1)
      match items (d.events.size + 1) (pos + 1) [] 0 with
      | .ok r => pure r
      | .error e => throw (e.placed m path)
    | .scalar "" .plain _ | .void => pure ([], pos + 1)
    | _ => throw ((invalidType n "a sequence").placed m path)

/-- A record named `name` with the given fields. Each entry whose key names a field is read
by `field` with the field's index; other entries are skipped. A field may appear once;
`finish` fills in the fields that did not appear, or names one that must. -/
def record {α : Type} (name : String) (fields : List String) (init : α)
    (field : Nat → α → Path → Nat → Except DecodeError (α × Nat)) (finish : α → List Nat → Except String α)
    (d : Document) (path : Path) (pos : Nat) : Except DecodeError (α × Nat) :=
  follow d pos fun pos => do
    let (n, m) ← d.get pos
    let place := fun (e : DecodeError) => e.placed m path
    let done (acc : α) (seen : List Nat) (p : Nat) : Except DecodeError (α × Nat) :=
      match finish acc seen with
      | .ok v => pure (v, p)
      | .error msg => throw (place (.message msg none))
    match n with
    | .mapStart =>
      let rec entries : Nat → Nat → α → List Nat → Except DecodeError ((α × List Nat) × Nat)
        | 0, p, acc, seen => pure ((acc, seen), p)
        | fuel + 1, p, acc, seen => do
          let (kn, _) ← d.get p
          match kn with
          | .mapEnd => pure ((acc, seen), p + 1)
          | _ =>
            let keyText : Option String := match kn with
              | .scalar t _ _ => some t
              | _ => none
            let (key, p) ← textAs "field identifier" d path p
            let valuePath := match keyText with
              | some t => Path.map path t
              | none => Path.unknown path
            match fields.idxOf? key with
            | some i =>
              if seen.contains i then
                throw (.message ("duplicate field `" ++ key ++ "`") none)
              let (acc, p) ← field i acc valuePath p
              entries fuel p acc (i :: seen)
            | none =>
              let p ← skipNode d p
              entries fuel p acc seen
      match entries (d.events.size + 1) (pos + 1) init [] with
      | .ok ((acc, seen), p) => done acc seen p
      | .error e => throw (place e)
    | .scalar "" .plain _ | .void => done init [] (pos + 1)
    | _ => throw (place (invalidType n ("struct " ++ name)))

end Decode

/-- Reads a text's only document with a decoder for its top value. A syntax error past the
value still fails, and so does a second document. -/
def decodeText {α : Type} (text : String) (top : Document → Path → Nat → Except DecodeError (α × Nat)) :
    Except DecodeError α := do
  let d := Document.load text
  let (v, _) ← top d .root 0
  if let some e := d.error then throw (.load e)
  if d.more then throw .moreThanOneDocument
  pure v

end Yaml

end ControlPlane
