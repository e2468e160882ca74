/-!
# LIKE patterns

The relational index matches texts against LIKE patterns: `%` stands for any run of
characters, `_` for exactly one, and a backslash makes the next character stand for itself.
Letters are compared up to ASCII case; every other character must be equal. Both the text
and the pattern end at their first NUL character: what follows it takes no part.

Search texts are escaped before they go into a pattern, so that `%`, `_` and the backslash in
them stand for themselves.
-/

namespace ControlPlane

/-- One element of a LIKE pattern. -/
inductive LikeToken where
  /-- Any run of characters, the empty one included. -/
  | any
  /-- Exactly one character. -/
  | one
  /-- This character, up to ASCII case. -/
  | char (c : Char)
  deriving Inhabited, BEq

namespace LikeToken

/-- Reads a pattern; a backslash makes the next character literal. -/
def parse : List Char → List LikeToken
  | [] => []
  | '\\' :: c :: rest => .char c :: parse rest
  | '%' :: rest => .any :: parse rest
  | '_' :: rest => .one :: parse rest
  | c :: rest => .char c :: parse rest

end LikeToken

def sameUpToCase (a b : Char) : Bool := a.toLower == b.toLower

/-- Whether a text matches a read pattern. -/
def likeMatches : List LikeToken → List Char → Bool
  | [], t => t.isEmpty
  | .any :: p, t =>
    likeMatches p t ||
      match t with
      | [] => false
      | _ :: t' => likeMatches (.any :: p) t'
  | .one :: _, [] => false
  | .one :: p, _ :: t => likeMatches p t
  | .char _ :: _, [] => false
  | .char c :: p, x :: t => sameUpToCase c x && likeMatches p t
termination_by p t => p.length + t.length

def beforeNul (s : String) : List Char := s.toList.takeWhile (· != '\x00')

def like (text pattern : String) : Bool :=
  likeMatches (LikeToken.parse (beforeNul pattern)) (beforeNul text)

/-- Escapes `%`, `_` and the backslash with a backslash. -/
def escapeLike (s : String) : String :=
  String.join (s.toList.map fun c => if c == '%' || c == '_' || c == '\\' then "\\" ++ c.toString
    else c.toString)

end ControlPlane
