import ControlPlane.Error

/-!
# The grammar of names, services, zones and addresses

Configuration names, service names, zones and endpoint addresses are ASCII words over small
alphabets, compared without regard to case. Comparing without regard to case lets two more
characters pass as letters: U+017F (long s) and U+212A (Kelvin sign), whose case folding is an
ASCII letter (`s` and `k`). No other character folds into the ASCII letters.

* a **name** is at least six characters: a letter, then letters, digits, `_`, `.` or `-`;
* a **service** is a name, a colon and a version: a letter or digit, then letters, digits,
  `_`, `.` or `-`;
* a **zone** is a letter or digit, then letters, digits, `_` or `-`;
* an **address** is one or more letters, digits, `:`, `_`, `.` or `-`;
* a **name prefix** is empty, or a letter followed by at most one name character.

A check fails with the checked text as its message.
-/

namespace ControlPlane

namespace Grammar

/-- A character that matches a letter when case is ignored: an ASCII letter, or one of the two
characters whose case folding is an ASCII letter. -/
def isLetter (c : Char) : Bool :=
  c.isAlpha || c.toNat = 0x17F || c.toNat = 0x212A

def isLetterOrDigit (c : Char) : Bool := isLetter c || c.isDigit

def isNameChar (c : Char) : Bool := isLetterOrDigit c || c = '_' || c = '.' || c = '-'

def isZoneChar (c : Char) : Bool := isLetterOrDigit c || c = '_' || c = '-'

def isAddressChar (c : Char) : Bool :=
  isLetterOrDigit c || c = ':' || c = '_' || c = '.' || c = '-'

/-- A name: a letter, then at least five name characters. -/
def isName (cs : List Char) : Bool :=
  match cs with
  | c :: rest => isLetter c && rest.all isNameChar && rest.length ≥ 5
  | [] => false

/-- A version: a letter or digit, then name characters. -/
def isVersion (cs : List Char) : Bool :=
  match cs with
  | c :: rest => isLetterOrDigit c && rest.all isNameChar
  | [] => false

/-- A service: a name, a colon, a version. Neither part holds a colon, so the text splits at
its first colon. -/
def isService (cs : List Char) : Bool :=
  let name := cs.takeWhile (· ≠ ':')
  match cs.dropWhile (· ≠ ':') with
  | _ :: version => isName name && isVersion version
  | [] => false

/-- A zone: a letter or digit, then zone characters. -/
def isZone (cs : List Char) : Bool :=
  match cs with
  | c :: rest => isLetterOrDigit c && rest.all isZoneChar
  | [] => false

def isAddress (cs : List Char) : Bool := !cs.isEmpty && cs.all isAddressChar

/-- A name prefix: empty, or a letter and at most one name character. -/
def isNamePrefix (cs : List Char) : Bool :=
  match cs with
  | [] => true
  | [c] => isLetter c
  | [c, d] => isLetter c && isNameChar d
  | _ => false

end Grammar

def checkName (name : String) : Except Error Unit :=
  if Grammar.isName name.toList then .ok () else .error ⟨.invalidName, name⟩

def checkNamePrefix (start : String) : Except Error Unit :=
  if Grammar.isNamePrefix start.toList then .ok () else .error ⟨.invalidName, start⟩

def checkService (service : String) : Except Error Unit :=
  if Grammar.isService service.toList then .ok () else .error ⟨.invalidService, service⟩

def checkZone (zone : String) : Except Error Unit :=
  if Grammar.isZone zone.toList then .ok () else .error ⟨.invalidZone, zone⟩

/-- Checks a service, then a zone. -/
def checkServiceZone (service zone : String) : Except Error Unit := do
  checkService service
  checkZone zone

end ControlPlane
