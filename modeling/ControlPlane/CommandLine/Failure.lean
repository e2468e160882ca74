import ControlPlane.CommandLine.Help

/-!
# Command-line errors

Why a command line was refused, and the message that says so. A message starts with
`error: `, states the fault, offers tips (a similar name, or how to pass a value that looks
like an argument), shows a usage line where one helps, and ends by pointing at `--help`.

A command line that gives nothing to a program that needs a subcommand shows the help
instead, as an error.
-/

namespace ControlPlane

/-- Why a command line was refused. -/
inductive UsageError where
  /-- An argument no rule of the command accepts, with a similar argument and tips. -/
  | unknownArgument (arg : String) (similar : Option String) (tips : List String) (usage : String)
  /-- A word that names no subcommand, with similar subcommands and tips. -/
  | unknownSubcommand (word : String) (similar : List String) (tips : List String)
      (usage : String)
  /-- A value that is none of the choices, with the closest one. -/
  | invalidValue (value arg : String) (choices : List String) (similar : Option String)
  /-- An option given without its value. -/
  | emptyValue (arg : String) (choices : List String)
  /-- A value that does not read, with the reason. -/
  | malformedValue (value arg reason : String)
  /-- A value attached to a switch. -/
  | unexpectedValue (value arg : String) (usage : String)
  /-- Required arguments left out. -/
  | missingArguments (args : List String) (usage : String)
  /-- No subcommand where one must follow. -/
  | missingSubcommand (program : String) (names : List String) (usage : String)
  /-- An argument given twice. -/
  | repeated (arg : String) (usage : String)
  /-- Nothing given where something must be: the help stands for the error. -/
  | helpInstead (text : String)
  deriving Inhabited

namespace UsageError

def similarTip (kind : String) : List String → String
  | [w] => "a similar " ++ kind ++ " exists: '" ++ w ++ "'"
  | ws => "some similar " ++ kind ++ "s exist: " ++
      String.intercalate ", " (ws.map fun w => "'" ++ w ++ "'")

/-- The tips of a message: a similar word first, then the others, one per line after a blank
line. -/
def tipLines (similar : List String) (kind : String) (tips : List String) : String :=
  let first := if similar.isEmpty then [] else [similarTip kind similar]
  let all := first ++ tips
  if all.isEmpty then "" else "\n" ++ String.join (all.map fun t => "\n  tip: " ++ t)

def choiceLine (label : String) (choices : List String) : String :=
  if choices.isEmpty then ""
  else "\n  [" ++ label ++ ": " ++ String.intercalate ", " (choices.map quotedIfBlank) ++ "]"

def closing (usage : Option String) : String :=
  (match usage with
   | some u => "\n\nUsage: " ++ u
   | none => "") ++ "\n\nFor more information, try '--help'.\n"

/-- The message of an error. -/
def render : UsageError → String
  | .unknownArgument arg similar tips usage =>
    "error: unexpected argument '" ++ arg ++ "' found" ++
      tipLines similar.toList "argument" tips ++ closing (some usage)
  | .unknownSubcommand word similar tips usage =>
    "error: unrecognized subcommand '" ++ word ++ "'" ++
      tipLines similar "subcommand" tips ++ closing (some usage)
  | .invalidValue value arg choices similar =>
    "error: invalid value '" ++ value ++ "' for '" ++ arg ++ "'" ++
      choiceLine "possible values" choices ++ tipLines similar.toList "value" [] ++ closing none
  | .emptyValue arg choices =>
    "error: a value is required for '" ++ arg ++ "' but none was supplied" ++
      choiceLine "possible values" choices ++ closing none
  | .malformedValue value arg reason =>
    "error: invalid value '" ++ value ++ "' for '" ++ arg ++ "': " ++ reason ++ closing none
  | .unexpectedValue value arg usage =>
    "error: unexpected value '" ++ value ++ "' for '" ++ arg ++ "' found; no more were expected" ++
      closing (some usage)
  | .missingArguments args usage =>
    "error: the following required arguments were not provided:" ++
      String.join (args.map ("\n  " ++ ·)) ++ closing (some usage)
  | .missingSubcommand program names usage =>
    "error: '" ++ program ++ "' requires a subcommand but one was not provided" ++
      choiceLine "subcommands" names ++ closing (some usage)
  | .repeated arg usage =>
    "error: the argument '" ++ arg ++ "' cannot be used multiple times" ++ closing (some usage)
  | .helpInstead text => text

end UsageError

end ControlPlane
