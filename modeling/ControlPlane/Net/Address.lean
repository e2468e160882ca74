/-!
# IP addresses, socket addresses and networks

The text forms of IP addresses:

* IPv4 is four decimal octets joined by dots, each one to three digits without a leading
  zero and at most 255;
* IPv6 is eight groups of one to four hex digits joined by colons, where one run of groups
  may be left out as `::` and the last two groups may be written as an IPv4 address; it is
  written back in the shortest form (the longest run of two or more zero groups, the first
  of equal ones, becomes `::`, hex digits are lowercase) except that an IPv4-mapped address
  is written `::ffff:` and its IPv4 form;
* a socket address is an IPv4 address, or an IPv6 address in brackets with an optional
  `%scope`, then a colon and a port of decimal digits below 65536;
* a network is an address with an optional `/` and a prefix length (or an IPv4 netmask of
  contiguous ones); without one the network is the single address. The address may have
  host bits set; a network holds an address of its own family whose first prefix-length
  bits agree with it.
-/

namespace ControlPlane

/-- An IP address: an IPv4 address as a 32-bit number, or an IPv6 address as a 128-bit one. -/
inductive IpAddr where
  | v4 (bits : Nat)
  | v6 (bits : Nat)
  deriving Inhabited, BEq, DecidableEq

namespace IpText

abbrev Reader (α : Type) := List Char → Option (α × List Char)

/-- The value of a digit in a radix of at most 16. -/
def digitValue (radix : Nat) (c : Char) : Option Nat :=
  let v :=
    if c.isDigit then some (c.toNat - 48)
    else if 'a' ≤ c && c ≤ 'f' then some (c.toNat - 87)
    else if 'A' ≤ c && c ≤ 'F' then some (c.toNat - 55)
    else none
  v.bind fun d => if d < radix then some d else none

/-- Reads the whole run of digits at the head: refused when there is none, when there are more
than `maxDigits`, when the value exceeds `limit`, or when a leading zero is not allowed and
more digits follow it. -/
def readNumber (radix : Nat) (maxDigits : Option Nat) (allowZeroPrefix : Bool) (limit : Nat) :
    Reader Nat := fun cs =>
  let digits := cs.takeWhile fun c => (digitValue radix c).isSome
  let value := digits.foldl (fun acc c => acc * radix + (digitValue radix c).getD 0) 0
  if digits.isEmpty then none
  else if maxDigits.any (digits.length > ·) then none
  else if value > limit then none
  else if !allowZeroPrefix && digits.head? == some '0' && digits.length > 1 then none
  else some (value, cs.drop digits.length)

def readChar (c : Char) : Reader Unit
  | d :: rest => if c = d then some ((), rest) else none
  | [] => none

/-- Reads a dotted IPv4 address as its 32-bit value. -/
def readV4 : Reader Nat := fun cs => do
  let octet := readNumber 10 (some 3) false 255
  let (a, cs) ← octet cs
  let ((), cs) ← readChar '.' cs
  let (b, cs) ← octet cs
  let ((), cs) ← readChar '.' cs
  let (c, cs) ← octet cs
  let ((), cs) ← readChar '.' cs
  let (d, cs) ← octet cs
  pure (((a * 256 + b) * 256 + c) * 256 + d, cs)

/-- Reads up to `limit` colon-separated groups, the first without a colon before it; the
last two may be an IPv4 address when at least two remain. Gives the groups and whether an
IPv4 address ended them. -/
def readGroups : Nat → Nat → List Nat → List Char → (List Nat × Bool) × List Char
  | 0, _, acc, cs => ((acc.reverse, false), cs)
  | left + 1, i, acc, cs =>
    let sep (r : Reader Nat) : Reader Nat := fun cs =>
      if i > 0 then (do let ((), cs) ← readChar ':' cs; r cs) else r cs
    let v4 := if left ≥ 1 then sep readV4 cs else none
    match v4 with
    | some (v, rest) => (((v % 65536) :: (v / 65536) :: acc).reverse, true) |> fun g => (g, rest)
    | none =>
      match sep (readNumber 16 (some 4) true 0xFFFF) cs with
      | some (g, rest) => readGroups left (i + 1) (g :: acc) rest
      | none => ((acc.reverse, false), cs)

def groupsValue (gs : List Nat) : Nat := gs.foldl (fun acc g => acc * 65536 + g) 0

/-- Reads an IPv6 address as its 128-bit value. -/
def readV6 : Reader Nat := fun cs =>
  let ((head, headV4), cs) := readGroups 8 0 [] cs
  if head.length = 8 then some (groupsValue head, cs)
  else if headV4 then none
  else do
    let ((), cs) ← readChar ':' cs
    let ((), cs) ← readChar ':' cs
    let limit := 8 - (head.length + 1)
    let ((tail, _), cs) := readGroups limit 0 [] cs
    let zeros := List.replicate (8 - head.length - tail.length) 0
    pure (groupsValue (head ++ zeros ++ tail), cs)

def whole {α : Type} (r : Reader α) (s : String) : Option α :=
  match r s.toList with
  | some (a, []) => some a
  | _ => none

end IpText

namespace IpAddr

def parse? (s : String) : Option IpAddr :=
  match IpText.whole IpText.readV4 s with
  | some v => some (.v4 v)
  | none => (IpText.whole IpText.readV6 s).map .v6

def hexText (n : Nat) : String :=
  if n = 0 then "0" else String.ofList (Nat.toDigits 16 n)

def groups (bits : Nat) : List Nat :=
  (List.range 8).reverse.map fun i => (bits / Nat.pow 65536 i) % 65536

/-- The start and length of the first longest run of zero groups. -/
def longestZeroRun (gs : List Nat) : Nat × Nat :=
  let step := fun (acc : (Nat × Nat) × (Nat × Nat) × Nat) (g : Nat) =>
    let (best, current, i) := acc
    if g = 0 then
      let current := if current.2 = 0 then (i, 1) else (current.1, current.2 + 1)
      let best := if current.2 > best.2 then current else best
      (best, current, i + 1)
    else (best, (0, 0), i + 1)
  (gs.foldl step ((0, 0), (0, 0), 0)).1

def dotted (bits : Nat) : String :=
  let o (i : Nat) := toString ((bits / Nat.pow 256 i) % 256)
  o 3 ++ "." ++ o 2 ++ "." ++ o 1 ++ "." ++ o 0

/-- The text of an IP address. -/
def render : IpAddr → String
  | .v4 bits => dotted bits
  | .v6 bits =>
    let gs := groups bits
    if gs.take 6 == [0, 0, 0, 0, 0, 0xFFFF] then
      "::ffff:" ++ dotted (bits % Nat.pow 2 32)
    else
      let (start, len) := longestZeroRun gs
      let part (xs : List Nat) : String := String.intercalate ":" (xs.map hexText)
      if len > 1 then part (gs.take start) ++ "::" ++ part (gs.drop (start + len))
      else part gs

end IpAddr

/-- A socket address: an IP address and a port. -/
structure SocketAddr where
  ip : IpAddr
  port : Nat
  /-- The scope of an IPv6 address, 0 when it has none. -/
  scope : Nat := 0
  deriving Inhabited

namespace SocketAddr

def readPort : IpText.Reader Nat := fun cs => do
  let ((), cs) ← IpText.readChar ':' cs
  IpText.readNumber 10 none true 65535 cs

/-- Reads a socket address: `a.b.c.d:port`, or `[ipv6]:port` with an optional `%scope`. -/
def parse? (s : String) : Option SocketAddr :=
  let v4 : IpText.Reader SocketAddr := fun cs => do
    let (ip, cs) ← IpText.readV4 cs
    let (port, cs) ← readPort cs
    pure (⟨.v4 ip, port, 0⟩, cs)
  let v6 : IpText.Reader SocketAddr := fun cs => do
    let ((), cs) ← IpText.readChar '[' cs
    let (ip, cs) ← IpText.readV6 cs
    let (scope, cs) := match IpText.readChar '%' cs with
      | some ((), rest) =>
        match IpText.readNumber 10 none true (Nat.pow 2 32 - 1) rest with
        | some (n, rest) => (some n, rest)
        | none => (none, cs)
      | none => (some 0, cs)
    let scope ← scope
    let ((), cs) ← IpText.readChar ']' cs
    let (port, cs) ← readPort cs
    pure (⟨.v6 ip, port, scope⟩, cs)
  match IpText.whole v4 s with
  | some a => some a
  | none => IpText.whole v6 s

/-- The text of a socket address; an IPv6 address stands in brackets. -/
def render (a : SocketAddr) : String :=
  match a.ip with
  | .v4 _ => a.ip.render ++ ":" ++ toString a.port
  | .v6 _ =>
    "[" ++ a.ip.render ++ (if a.scope = 0 then "" else "%" ++ toString a.scope) ++ "]:" ++
      toString a.port

end SocketAddr

/-- A network: an address and how many of its leading bits every member shares. -/
structure IpNetwork where
  addr : IpAddr
  prefixLen : Nat
  deriving Inhabited

namespace IpNetwork

def maskPrefix? (mask : Nat) : Option Nat :=
  let ones := ((List.range 33).filter fun k => mask = Nat.pow 2 32 - Nat.pow 2 (32 - k)).head?
  ones

/-- Reads a prefix length: optional `+`, decimal digits, a byte, at most `max`. -/
def readPrefixLen (s : String) (max : Nat) : Option Nat :=
  let cs := match s.toList with
    | '+' :: rest => rest
    | cs => cs
  if cs.isEmpty || !cs.all Char.isDigit then none
  else
    let v := cs.foldl (fun acc c => acc * 10 + (c.toNat - 48)) 0
    if v > 255 || v > max then none else some v

/-- Reads a network: an address, then optionally one `/` and a prefix length (or, for IPv4, a
netmask). -/
def parse? (s : String) : Option IpNetwork :=
  let cs := s.toList
  let (addrText, lenText) : String × Option String :=
    match cs.dropWhile (· ≠ '/') with
    | [] => (s, none)
    | _ :: rest => (String.ofList (cs.takeWhile (· ≠ '/')), some (String.ofList rest))
  if lenText.any (·.toList.contains '/') then none
  else
    let v4 : Option IpNetwork := do
      let a ← IpText.whole IpText.readV4 addrText
      let len ← match lenText with
        | none => some 32
        | some t =>
          match IpText.whole IpText.readV4 t with
          | some mask => maskPrefix? mask
          | none => readPrefixLen t 32
      pure ⟨.v4 a, len⟩
    let v6 : Option IpNetwork := do
      let a ← IpText.whole IpText.readV6 addrText
      let len ← match lenText with
        | none => some 128
        | some t => readPrefixLen t 128
      pure ⟨.v6 a, len⟩
    match v4 with
    | some n => some n
    | none => v6

def contains (net : IpNetwork) (ip : IpAddr) : Bool :=
  match net.addr, ip with
  | .v4 a, .v4 b => a / Nat.pow 2 (32 - net.prefixLen) = b / Nat.pow 2 (32 - net.prefixLen)
  | .v6 a, .v6 b => a / Nat.pow 2 (128 - net.prefixLen) = b / Nat.pow 2 (128 - net.prefixLen)
  | _, _ => false

end IpNetwork

end ControlPlane
