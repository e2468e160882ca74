/-!
# UTF-8 validation

Where a byte sequence stops being UTF-8 (RFC 3629), and how long the offending sequence is:
the longest prefix of a well-formed sequence that the bytes start (one to three bytes), or
nothing when the bytes end inside a sequence that could still be completed. Lossy decoding
replaces each offending sequence by U+FFFD.
-/

namespace ControlPlane

/-- Where a byte sequence stops being UTF-8: the length of the valid prefix, and the length
of the offending sequence, none when the bytes end early. -/
structure Utf8Fault where
  validUpTo : Nat
  length : Option Nat
  deriving Inhabited

def Utf8Fault.message (f : Utf8Fault) : String :=
  match f.length with
  | some n => "invalid utf-8 sequence of " ++ toString n ++ " bytes from index " ++ toString f.validUpTo
  | none => "incomplete utf-8 byte sequence from index " ++ toString f.validUpTo

def isContinuation (b : Nat) : Bool := 0x80 ≤ b && b ≤ 0xBF

/-- The accepted range of the second byte after a leading byte. -/
def secondRange (lead : Nat) : Nat × Nat :=
  if lead = 0xE0 then (0xA0, 0xBF)
  else if lead = 0xED then (0x80, 0x9F)
  else if lead = 0xF0 then (0x90, 0xBF)
  else if lead = 0xF4 then (0x80, 0x8F)
  else (0x80, 0xBF)

/-- How many bytes a sequence with a leading byte has; zero for a byte that leads none. -/
def sequenceWidth (lead : Nat) : Nat :=
  if lead < 0x80 then 1
  else if 0xC2 ≤ lead && lead ≤ 0xDF then 2
  else if 0xE0 ≤ lead && lead ≤ 0xEF then 3
  else if 0xF0 ≤ lead && lead ≤ 0xF4 then 4
  else 0

/-- The sequence at the front of some bytes: its width when it is whole, else how many of its
bytes form a valid prefix before a wrong byte, or none when the bytes end early. -/
def frontSequence : List Nat → Except (Option Nat) Nat
  | [] => .ok 0
  | lead :: rest =>
    let w := sequenceWidth lead
    if w = 1 then .ok 1
    else if w = 0 then .error (some 1)
    else
      let (lo, hi) := secondRange lead
      match rest with
      | [] => .error none
      | b1 :: rest =>
        if !(lo ≤ b1 && b1 ≤ hi) then .error (some 1)
        else if w = 2 then .ok 2
        else match rest with
          | [] => .error none
          | b2 :: rest =>
            if !isContinuation b2 then .error (some 2)
            else if w = 3 then .ok 3
            else match rest with
              | [] => .error none
              | b3 :: _ => if isContinuation b3 then .ok 4 else .error (some 3)

/-- The first fault of a byte sequence, counting positions from `start`; none when it is all
UTF-8. -/
def utf8Fault (start : Nat) (bytes : List Nat) : Option Utf8Fault :=
  go bytes.length start bytes
where
  /-- Walks the sequences, with fuel for the bytes left. -/
  go : Nat → Nat → List Nat → Option Utf8Fault
    | 0, _, _ => none
    | fuel + 1, pos, bs =>
      match bs with
      | [] => none
      | _ =>
        match frontSequence bs with
        | .ok w => go fuel (pos + w) (bs.drop w)
        | .error len => some ⟨pos, len⟩

/-- Decodes bytes as UTF-8, replacing each offending sequence by U+FFFD. -/
def decodeLossy (bytes : List Nat) : String :=
  go bytes.length bytes ""
where
  /-- Decodes sequence by sequence, with fuel for the bytes left. -/
  go : Nat → List Nat → String → String
    | 0, _, acc => acc
    | fuel + 1, bs, acc =>
      match bs with
      | [] => acc
      | _ =>
        match frontSequence bs with
        | .ok w =>
          let piece := String.fromUTF8? (ByteArray.mk ((bs.take w).map Nat.toUInt8).toArray)
          go fuel (bs.drop w) (acc ++ piece.getD "�")
        | .error (some n) => go fuel (bs.drop n) (acc.push '�')
        | .error none => acc.push '�'

def decodeStrict (bytes : List Nat) : Except Utf8Fault String :=
  match utf8Fault 0 bytes with
  | some f => throw f
  | none => pure (decodeLossy bytes)

end ControlPlane
