import ControlPlane.Error

/-!
# Lease rules

Endpoints live on leases. A lease with a positive ttl expires; its ttl must lie between ten
seconds and nine billion seconds. A ttl of zero or less asks for no expiry at all.
-/

namespace ControlPlane

namespace Lease

/-- The shortest ttl of an expiring lease, in seconds. -/
def minTtl : Int := 10

/-- The ttl of a lease when a caller gives none, in seconds. -/
def defaultTtl : Int := 60

/-- The longest ttl of an expiring lease, in seconds. -/
def maxTtl : Int := 9000000000

/-- Accepts a ttl of zero or less, or one within the bounds. -/
def checkTtl (ttl : Int) : Except Error Unit :=
  if ttl > 0 && !(minTtl ≤ ttl && ttl ≤ maxTtl) then
    throw ⟨.invalidParam, "invalid ttl: " ++ toString ttl⟩
  else pure ()

end Lease

end ControlPlane
