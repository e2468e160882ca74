import ControlPlane.Key.Grammar
import ControlPlane.Pattern.Match

/-!
# The address policy

Endpoint addresses must follow the address grammar and match none of the ban list's
patterns. A pattern bans an address when it matches some stretch of it; the empty pattern
bans every address. A ban list whose pattern does not read is refused as a whole, with the
pattern and the reading error in the message.
-/

namespace ControlPlane

/-- The ban list of endpoint addresses. -/
structure AddressPolicy where
  banned : List Regex := []
  deriving Inhabited

namespace AddressPolicy

/-- The policy of a ban list, or the error of its first pattern that does not read. -/
def make (patterns : List String) : Except Error AddressPolicy := do
  let banned ← patterns.mapM fun p =>
    match Regex.compile p with
    | .ok r => .ok r
    | .error msg => .error ⟨.invalidParam, "invalid banned address " ++ p ++ ": " ++ msg⟩
  return ⟨banned⟩

def isBanned (policy : AddressPolicy) (address : String) : Bool :=
  policy.banned.any (·.isMatch address)

/-- Checks an endpoint address: present, in the grammar, and not banned. -/
def check (policy : AddressPolicy) (address : String) : Except Error Unit :=
  if address.isEmpty then .error ⟨.invalidEndpoint, "missing address"⟩
  else if !Grammar.isAddress address.toList then .error ⟨.invalidAddress, address⟩
  else if policy.isBanned address then .error ⟨.invalidAddress, "banned"⟩
  else .ok ()

end AddressPolicy

end ControlPlane
