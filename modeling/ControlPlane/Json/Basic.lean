/-!
# JSON values

The JSON texts this library writes: the stored forms of endpoints and descriptors, and the
payloads of every answer. Only integers occur as numbers in them, so a number is an `Int`.

Objects keep their fields in the order they were built: the stored forms of endpoints and
descriptors are hashed and compared byte for byte, so field order is part of the format.
-/

namespace ControlPlane

/-- A JSON value whose numbers are integers and whose objects keep their field order. -/
inductive Json where
  | null
  | bool (b : Bool)
  | int (n : Int)
  | str (s : String)
  | arr (items : List Json)
  | obj (fields : List (String × Json))
  deriving Inhabited

namespace Json

def nat (n : Nat) : Json := .int n

def strOrNull : Option String → Json
  | some s => .str s
  | none => .null

def intOrNull : Option Int → Json
  | some n => .int n
  | none => .null

def objOpt (fields : List (String × Option Json)) : Json :=
  .obj (fields.filterMap fun (k, v) => v.map (k, ·))

end Json

end ControlPlane
