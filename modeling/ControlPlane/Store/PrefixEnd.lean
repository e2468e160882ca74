/-!
# The end of a prefix range

The keys that start with a text `p` are, in code point order, exactly those in `[p, e)`, where
`e` is `p` with its last character that has a successor replaced by that successor and the
characters after it dropped. The successor of a character is the next code point, except that
the successor of U+D7FF is U+E000, since the surrogates between are no characters; U+10FFFF
has none. When no character of `p` has a successor, no key is past all that start with `p`,
and the end is the text `"\x00"`, which ranges read as "to the end of the keyspace".
-/

namespace ControlPlane

/-- The next character in code point order, if there is one. -/
def Char.succ? (c : Char) : Option Char :=
  if c.toNat = 0xD7FF then some (Char.ofNat 0xE000)
  else if c.toNat + 1 ≤ 0x10FFFF then some (Char.ofNat (c.toNat + 1))
  else none

/-- The characters of the end of a prefix range, given the characters of the prefix reversed. -/
def prefixEndRev : List Char → Option (List Char)
  | [] => none
  | c :: rest =>
    match Char.succ? c with
    | some d => some (d :: rest)
    | none => prefixEndRev rest

/-- The first text past every text that starts with `p`, or `"\x00"` when there is none. -/
def prefixEnd (p : String) : String :=
  match prefixEndRev p.toList.reverse with
  | some cs => String.ofList cs.reverse
  | none => "\x00"

end ControlPlane
