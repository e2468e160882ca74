/-!
# Reading records of string fields from JSON text

Stored endpoint and descriptor values are JSON texts that a reader turns back into records
whose fields are all strings. This module reads such a record, following RFC 8259 strictly:

* the text holds one value, with blanks (space, tab, line feed, carriage return) around it;
* a record is an object naming its fields, or an array giving them in declaration order;
* in an object, a field named twice is refused, a name that is no field is skipped with its
  value (which must still be well formed), and a required field must be present;
* in an array, missing trailing fields take their default when optional, and extra items are
  refused;
* a field's value must be a string; within a string no control character may stand raw, and
  a `\u` escape must not leave half of a surrogate pair alone;
* containers nest at most 127 deep.

A skipped value is only checked for its syntax: a lone surrogate escape is accepted there.
-/

namespace ControlPlane

namespace Json

def isBlank (c : Char) : Bool :=
  c = ' ' || c = '\t' || c = '\n' || c = '\r'

def skipBlanks : List Char → List Char
  | c :: rest => if isBlank c then skipBlanks rest else c :: rest
  | [] => []

def hexValue? (c : Char) : Option Nat :=
  if '0' ≤ c ∧ c ≤ '9' then some (c.toNat - 48)
  else if 'a' ≤ c ∧ c ≤ 'f' then some (c.toNat - 87)
  else if 'A' ≤ c ∧ c ≤ 'F' then some (c.toNat - 55)
  else none

/-- Four hex digits as a number. -/
def hex4? (a b c d : Char) : Option Nat := do
  let va ← hexValue? a
  let vb ← hexValue? b
  let vc ← hexValue? c
  let vd ← hexValue? d
  pure (((va * 16 + vb) * 16 + vc) * 16 + vd)

def isHighSurrogate (n : Nat) : Bool := 0xD800 ≤ n && n ≤ 0xDBFF

def isLowSurrogate (n : Nat) : Bool := 0xDC00 ≤ n && n ≤ 0xDFFF

/-- The character a short escape stands for. -/
def shortEscape? (e : Char) : Option Char :=
  if e = '"' then some '"'
  else if e = '\\' then some '\\'
  else if e = '/' then some '/'
  else if e = 'b' then some (Char.ofNat 8)
  else if e = 'f' then some (Char.ofNat 12)
  else if e = 'n' then some '\n'
  else if e = 'r' then some '\r'
  else if e = 't' then some '\t'
  else none

/-- The body of a string after its opening quote, up to and without its closing quote, with
its escapes decoded, and the text after the closing quote. With `strict` a lone surrogate
escape is refused; without it, such an escape is passed over. -/
def readStringBody (strict : Bool) : List Char → List Char → Option (String × List Char)
  | acc, '"' :: rest => some (String.ofList acc.reverse, rest)
  | acc, '\\' :: 'u' :: a :: b :: c :: d :: '\\' :: 'u' :: a2 :: b2 :: c2 :: d2 :: rest =>
    match hex4? a b c d with
    | none => none
    | some n =>
      if isHighSurrogate n then
        match hex4? a2 b2 c2 d2 with
        | none => none
        | some m =>
          if isLowSurrogate m then
            let code := 0x10000 + (n - 0xD800) * 0x400 + (m - 0xDC00)
            readStringBody strict (Char.ofNat code :: acc) rest
          else if strict then none
          else readStringBody strict acc ('\\' :: 'u' :: a2 :: b2 :: c2 :: d2 :: rest)
      else if isLowSurrogate n then
        if strict then none
        else readStringBody strict acc ('\\' :: 'u' :: a2 :: b2 :: c2 :: d2 :: rest)
      else readStringBody strict (Char.ofNat n :: acc) ('\\' :: 'u' :: a2 :: b2 :: c2 :: d2 :: rest)
  | acc, '\\' :: 'u' :: a :: b :: c :: d :: rest =>
    match hex4? a b c d with
    | none => none
    | some n =>
      if isHighSurrogate n || isLowSurrogate n then
        if strict then none else readStringBody strict acc rest
      else readStringBody strict (Char.ofNat n :: acc) rest
  | acc, '\\' :: e :: rest =>
    match shortEscape? e with
    | some c => readStringBody strict (c :: acc) rest
    | none => none
  | acc, c :: rest =>
    if c.toNat < 0x20 then none else readStringBody strict (c :: acc) rest
  | _, [] => none
termination_by _ cs => cs.length

def spanDigits (cs : List Char) : List Char × List Char :=
  (cs.takeWhile Char.isDigit, cs.dropWhile Char.isDigit)

/-- The text after a number: `-`? then `0` or a digit run not starting with `0`, then an
optional fraction and an optional exponent, each with at least one digit. -/
def skipNumber (cs : List Char) : Option (List Char) := do
  let cs := match cs with
    | '-' :: rest => rest
    | _ => cs
  let afterInt ← match cs with
    | '0' :: rest => some rest
    | c :: _ =>
      if c.isDigit then some (spanDigits cs).2 else none
    | [] => none
  let afterFrac ← match afterInt with
    | '.' :: rest =>
      let (ds, more) := spanDigits rest
      if ds.isEmpty then none else some more
    | _ => some afterInt
  match afterFrac with
  | e :: rest =>
    if e = 'e' || e = 'E' then
      let rest := match rest with
        | '+' :: r => r
        | '-' :: r => r
        | _ => rest
      let (ds, more) := spanDigits rest
      if ds.isEmpty then none else some more
    else some afterFrac
  | [] => some afterFrac

def skipWord (word : List Char) (cs : List Char) : Option (List Char) :=
  if word.isPrefixOf cs then some (cs.drop word.length) else none

/-- The text after one well formed value at the head of `cs` (blanks first allowed). A value
that is only skipped may nest without limit; `fuel` bounds the walk by the text's length. -/
def skipValue : Nat → List Char → Option (List Char)
  | 0, _ => none
  | fuel + 1, cs =>
    match skipBlanks cs with
    | '"' :: rest => (readStringBody false [] rest).map (·.2)
    | '[' :: rest =>
      match skipBlanks rest with
      | ']' :: after => some after
      | _ => skipItems fuel rest
    | '{' :: rest =>
      match skipBlanks rest with
      | '}' :: after => some after
      | _ => skipMembers fuel rest
    | 't' :: rest => skipWord ['r', 'u', 'e'] rest
    | 'f' :: rest => skipWord ['a', 'l', 's', 'e'] rest
    | 'n' :: rest => skipWord ['u', 'l', 'l'] rest
    | cs' => skipNumber cs'
where
  /-- The text after the items of a non-empty array and its closing bracket. -/
  skipItems : Nat → List Char → Option (List Char)
    | 0, _ => none
    | fuel + 1, cs => do
      let after ← skipValue fuel cs
      match skipBlanks after with
      | ',' :: more => skipItems fuel more
      | ']' :: more => some more
      | _ => none
  /-- The text after the members of a non-empty object and its closing brace. -/
  skipMembers : Nat → List Char → Option (List Char)
    | 0, _ => none
    | fuel + 1, cs => do
      let afterKey ← match skipBlanks cs with
        | '"' :: rest => (readStringBody false [] rest).map (·.2)
        | _ => none
      let afterColon ← match skipBlanks afterKey with
        | ':' :: rest => some rest
        | _ => none
      let after ← skipValue fuel afterColon
      match skipBlanks after with
      | ',' :: more => skipMembers fuel more
      | '}' :: more => some more
      | _ => none

/-- The fields of a record: their names in declaration order, and which must be present. -/
structure RecordShape where
  /-- Field names, in the order the array form gives them. -/
  names : List String
  /-- The names that have no default. -/
  required : List String

def readFieldString (cs : List Char) : Option (String × List Char) :=
  match skipBlanks cs with
  | '"' :: rest => readStringBody true [] rest
  | _ => none

/-- Completes the values found for a record: optional fields default to the empty string,
and a missing required field refuses the record. -/
def completeRecord (shape : RecordShape) (found : List (String × String)) :
    Option (List String) :=
  shape.names.mapM fun name =>
    match found.lookup name with
    | some v => some v
    | none => if shape.required.contains name then none else some ""

/-- The members of an object after its opening brace, read into the fields found so far. -/
def readMembers (shape : RecordShape) :
    Nat → List (String × String) → List Char → Option (List (String × String) × List Char)
  | 0, _, _ => none
  | fuel + 1, found, cs => do
    let (key, afterKey) ← match skipBlanks cs with
      | '"' :: rest => readStringBody true [] rest
      | _ => none
    let afterColon ← match skipBlanks afterKey with
      | ':' :: rest => some rest
      | _ => none
    let (found', after) ←
      if shape.names.contains key then
        if (found.lookup key).isSome then none
        else do
          let (v, after) ← readFieldString afterColon
          pure (found ++ [(key, v)], after)
      else do
        let after ← skipValue fuel afterColon
        pure (found, after)
    match skipBlanks after with
    | ',' :: more => readMembers shape fuel found' more
    | '}' :: more => some (found', more)
    | _ => none

/-- The items of an array after its opening bracket, read as the fields in declaration order;
the array must end once the fields are read. -/
def readItems : List String → Bool → List (String × String) → List Char →
    Option (List (String × String) × List Char)
  | [], _, found, cs =>
    match skipBlanks cs with
    | ']' :: more => some (found, more)
    | _ => none
  | name :: names, first, found, cs =>
    match skipBlanks cs with
    | ']' :: more => some (found, more)
    | ',' :: more =>
      if first then none else do
        let (v, after) ← readFieldString more
        readItems names false (found ++ [(name, v)]) after
    | cs' =>
      if first then do
        let (v, after) ← readFieldString cs'
        readItems names false (found ++ [(name, v)]) after
      else none

/-- Reads a JSON text as a record of the shape, giving each field's value in declaration
order, or nothing when the text is not such a record. -/
def readRecord (shape : RecordShape) (text : String) : Option (List String) := do
  let cs := text.toList
  let (found, after) ← match skipBlanks cs with
    | '{' :: rest =>
      match skipBlanks rest with
      | '}' :: more => some ([], more)
      | _ => readMembers shape (cs.length + 1) [] rest
    | '[' :: rest => readItems shape.names true [] rest
    | _ => none
  if (skipBlanks after).isEmpty then completeRecord shape found else none

end Json

end ControlPlane
