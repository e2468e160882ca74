/-!
# Binary64 numbers as text

Reading decimal text as the nearest IEEE binary64 number, and writing a binary64 number back
in its shortest decimal form, without an exponent. Settings messages quote a number the way
the settings reader printed it, so both directions are exact:

* reading rounds the exact decimal value to the nearest representable number, ties to an
  even significand, with subnormals below `2^-1022` and infinity past the largest finite
  number;
* writing picks the fewest significant digits whose value still rounds back to the same
  number (the closest such when there are two), then writes them out in full.

All arithmetic is on natural numbers, so nothing is lost along the way.
-/

namespace ControlPlane

/-- A binary64 number: finite as `significand * 2 ^ exponent`, infinite, or not a number. -/
inductive Binary64 where
  | finite (negative : Bool) (significand : Nat) (exponent : Int)
  | infinite (negative : Bool)
  | nan
  deriving Inhabited, BEq

namespace Binary64

def powTwo (e : Int) : Nat × Nat :=
  if e ≥ 0 then (Nat.pow 2 e.toNat, 1) else (1, Nat.pow 2 (-e).toNat)

def powTen (e : Int) : Nat × Nat :=
  if e ≥ 0 then (Nat.pow 10 e.toNat, 1) else (1, Nat.pow 10 (-e).toNat)

def bitLength (n : Nat) : Nat := n.log2 + (if n = 0 then 0 else 1)

/-- Rounds `num / den` to the nearest natural number, ties to even. -/
def roundHalfEven (num den : Nat) : Nat :=
  let q := num / den
  let r := num % den
  if 2 * r > den then q + 1
  else if 2 * r < den then q
  else if q % 2 = 0 then q else q + 1

/-- The nearest binary64 number to `digits * 10 ^ exp10`. -/
def ofDecimal (negative : Bool) (digits : Nat) (exp10 : Int) : Binary64 :=
  let magnitude : Int := exp10 + (toString digits).length
  if digits = 0 || magnitude < -330 then .finite negative 0 0
  else if magnitude > 310 then .infinite negative
  else
    let (tn, td) := powTen exp10
    let num := digits * tn
    let den := td
    -- floor (log2 (num / den)), first estimated from bit lengths and then corrected
    let est : Int := (bitLength num : Int) - (bitLength den : Int)
    let below (b : Int) : Bool :=
      let (pn, pd) := powTwo b
      pn * den ≤ num * pd
    let b := if below est then est else est - 1
    let e := max (b - 52) (-1074)
    let (pn, pd) := powTwo e
    let m := roundHalfEven (num * pd) (den * pn)
    let (m, e) := if m = Nat.pow 2 53 then (Nat.pow 2 52, e + 1) else (m, e)
    if e > 971 then .infinite negative else .finite negative m e

/-- Reads decimal text the way the standard number reader does: an optional sign, then
`inf`, `infinity` or `nan` in any case, or digits with an optional point and an optional
exponent. -/
def parse? (s : String) : Option Binary64 :=
  let (negative, cs) := match s.toList with
    | '-' :: rest => (true, rest)
    | '+' :: rest => (false, rest)
    | cs => (false, cs)
  let word := String.ofList (cs.map Char.toLower)
  if word == "inf" || word == "infinity" then some (.infinite negative)
  else if word == "nan" then some .nan
  else
    let intPart := cs.takeWhile Char.isDigit
    let rest := cs.drop intPart.length
    let (fracPart, rest) := match rest with
      | '.' :: r => let f := r.takeWhile Char.isDigit; (f, r.drop f.length)
      | r => ([], r)
    if intPart.isEmpty && fracPart.isEmpty then none
    else
      let expPart : Option Int := match rest with
        | [] => some 0
        | e :: r =>
          if e == 'e' || e == 'E' then
            let (eneg, ds) := match r with
              | '-' :: d => (true, d)
              | '+' :: d => (false, d)
              | d => (false, d)
            if ds.isEmpty || !ds.all Char.isDigit then none
            else
              let v : Int := ds.foldl (fun acc c => acc * 10 + (c.toNat - 48)) 0
              some (if eneg then -v else v)
          else none
      match expPart with
      | none => none
      | some ex =>
        let digits := (intPart ++ fracPart).foldl (fun acc c => acc * 10 + (c.toNat - 48)) 0
        some (ofDecimal negative digits (ex - fracPart.length))

def isFinite : Binary64 → Bool
  | .finite _ _ _ => true
  | _ => false

def digitText (n : Nat) : String := toString n

/-- The shortest digits `c` and exponent `q` with `c * 10 ^ q` inside the rounding interval
of `m * 2 ^ e`, the closest to it when two qualify. -/
def shortest (m : Nat) (e : Int) : Nat × Int :=
  let (vn, vd) := powTwo e
  let v := (m * vn, vd)
  -- the rounding interval, as fractions over the common denominator 4 * vd
  let gapUp := vn
  let gapDown := if m = Nat.pow 2 52 && e > -1074 then vn else 2 * vn
  let den := 4 * vd
  let center := 4 * m * vn
  let high := center + 2 * gapUp
  let low := center - gapDown
  let inclusive := m % 2 = 0
  let inside (cn cd : Nat) : Bool :=
    -- cn / cd compared with low / den and high / den
    if inclusive then low * cd ≤ cn * den && cn * den ≤ high * cd
    else low * cd < cn * den && cn * den < high * cd
  -- the position of the first significant digit: 10 ^ p ≤ v < 10 ^ (p + 1)
  let est : Int := (toString (v.1 / v.2)).length - 1
  let lowerPow (p : Int) : Bool :=
    let (tn, td) := powTen p
    tn * v.2 ≤ v.1 * td
  let p := if v.1 < v.2 then
      -- below one: step down until the power fits
      let rec down : Nat → Int → Int
        | 0, p => p
        | k + 1, p => if lowerPow p then p else down k (p - 1)
      down 400 (-1)
    else est
  let rec search : Nat → Nat → Nat × Int
    | 0, _ => (m, e)
    | fuel + 1, n =>
      let q : Int := p - n + 1
      let (tn, td) := powTen q
      -- v / 10 ^ q = v.1 * td / (v.2 * tn)
      let cf := (v.1 * td) / (v.2 * tn)
      let cand := [cf, cf + 1].filter fun c => inside (c * tn) td
      let dist (c : Nat) : Nat × Nat :=
        -- |c * 10 ^ q - v| as a fraction over v.2 * td
        let a := c * tn * v.2
        let b := v.1 * td
        (if a ≥ b then a - b else b - a, v.2 * td)
      match cand with
      | [c] => (c, q)
      | [c1, c2] =>
        let d1 := (dist c1).1
        let d2 := (dist c2).1
        if d1 < d2 then (c1, q) else if d2 < d1 then (c2, q)
        else if c1 % 2 = 0 then (c1, q) else (c2, q)
      | _ => search fuel (n + 1)
  search 17 1

def trimZeros : Nat → Nat → Int → Nat × Int
  | 0, c, q => (c, q)
  | fuel + 1, c, q => if c ≠ 0 && c % 10 = 0 then trimZeros fuel (c / 10) (q + 1) else (c, q)

/-- The text of a number: shortest digits written in full, without an exponent. -/
def render : Binary64 → String
  | .nan => "NaN"
  | .infinite negative => if negative then "-inf" else "inf"
  | .finite negative m e =>
    let sign := if negative then "-" else ""
    if m = 0 then sign ++ "0"
    else
      let (c, q) := shortest m e
      let (c, q) := trimZeros 400 c q
      let ds := digitText c
      let n := ds.length
      let k : Int := n + q
      let body :=
        if k ≤ 0 then "0." ++ String.ofList (List.replicate (-k).toNat '0') ++ ds
        else if k < n then
          String.ofList (ds.toList.take k.toNat) ++ "." ++ String.ofList (ds.toList.drop k.toNat)
        else ds ++ String.ofList (List.replicate (k - n).toNat '0')
      sign ++ body

def renderWithPoint (x : Binary64) : String :=
  let t := x.render
  if x.isFinite && !t.toList.contains '.' then t ++ ".0" else t

end Binary64

end ControlPlane
