import ControlPlane.Text.Category
import ControlPlane.Text.BooleanProperty
import ControlPlane.Text.Ranges

/-!
# Quoted text

A text written between double quotes the way diagnostics show it: the quote and the
backslash are escaped, the usual control characters take their short escapes, and any other
character that does not print on its own is written `\u` with its number in lowercase hex
between braces. Every other character stands as itself.

A character does not print on its own when it is a separator other than the space, a control,
format, surrogate or private use character, unassigned, or a mark that extends the character
before it into one grapheme.
-/

namespace ControlPlane

def unprintableRanges : List (Nat × Nat) :=
  let categories := ["Space_Separator", "Line_Separator", "Paragraph_Separator", "Control",
    "Format", "Surrogate", "Private_Use", "Unassigned"]
  Text.unionRanges (((Text.booleanPropertyRanges? "Grapheme_Extend").getD []) ::
    categories.filterMap Text.singleCategory?)

def isUnprintable (c : Char) : Bool :=
  c ≠ ' ' && Text.inRanges unprintableRanges c.toNat

/-- The escape of one character inside quotes. -/
def quotedChar (c : Char) : String :=
  match c with
  | '"' => "\\\""
  | '\\' => "\\\\"
  | '\n' => "\\n"
  | '\r' => "\\r"
  | '\t' => "\\t"
  | '\x00' => "\\0"
  | c =>
    if isUnprintable c then "\\u" ++ "\x7b" ++ String.ofList (Nat.toDigits 16 c.toNat) ++ "\x7d"
    else String.singleton c

def quoted (s : String) : String := "\"" ++ String.join (s.toList.map quotedChar) ++ "\""

end ControlPlane
