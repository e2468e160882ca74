import ControlPlane.CommandLine.Help

/-!
# Failure reports

A failure that ends the program is reported on the error stream as what the program was doing
and the chain of causes under `Caused by:`. A single cause is indented four columns; several
are numbered from zero, right-aligned in five columns, their later lines indented past the
number.
-/

namespace ControlPlane

/-- A failure the program reports on exit: what it was doing, and the causes, outermost
first. -/
structure Report where
  context : String
  causes : List String := []
  deriving Inhabited

def rightAligned (n : Nat) : String :=
  let s := toString n
  spaces (5 - s.length) ++ s

namespace Report

/-- The causes, numbered from `n` when there are several. -/
def causeLines (numbered : Bool) : Nat → List String → String
  | _, [] => ""
  | n, c :: cs =>
    let body := if numbered then rightAligned n ++ ": " ++ indentAfterFirst c 7
      else "    " ++ indentAfterFirst c 4
    "\n" ++ body ++ causeLines numbered (n + 1) cs

def render (r : Report) : String :=
  "Error: " ++ r.context ++
    (if r.causes.isEmpty then ""
     else "\n\nCaused by:" ++ causeLines (r.causes.length > 1) 0 r.causes) ++ "\n"

end Report

end ControlPlane
