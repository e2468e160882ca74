import ControlPlane.CommandLine.Grammar
import ControlPlane.Text.Quoted

/-!
# Usage lines and help

A usage line names the command, `[OPTIONS]` when it has options a user may give, its required
arguments, its positionals, and `<COMMAND>` when a subcommand must follow. Once some arguments
were given, an error's usage line names those instead of `[OPTIONS]`.

Help shows the command's words, its usage line, and three sections: the subcommands, the
positional arguments and the options. In the short help each entry takes one line, its words
aligned two columns after the widest name, followed by the environment variable, the default
and the choices in brackets. The long help, shown for `--help` when it says more, puts the
words under each name with a blank line between entries, one bracket per line, and explains
each choice.
-/

namespace ControlPlane

def dropRepeats (xs : List String) : List String :=
  xs.foldl (fun acc x => if acc.contains x then acc else acc ++ [x]) []

def quotedIfBlank (s : String) : String :=
  if s.any Char.isWhitespace then quoted s else s

def spaces (n : Nat) : String := String.ofList (List.replicate n ' ')

def indentAfterFirst (text : String) (width : Nat) : String :=
  String.intercalate ("\n" ++ spaces width) (text.splitOn "\n")

def trimTrailing (s : String) : String :=
  String.ofList (s.toList.reverse.dropWhile Char.isWhitespace).reverse

namespace Command

/-- What a usage line lists after the name: the required options and the given ones, then
every positional, required ones in angle brackets. -/
def usageArgs (c : Command) (given : List String) : List String :=
  let ids := (c.args.filter (·.required)).map (·.id) ++ given
  let opts := dropRepeats (ids.filterMap fun id =>
    (c.findArg id).bind fun a => if a.isPositional then none else some (a.shown true))
  let pos := c.positionals.map fun p => p.shown (ids.contains p.id)
  opts ++ pos

/-- Whether the usage line shows `[OPTIONS]`: the command has an optional argument besides
its help and version switches. -/
def showsOptions (c : Command) : Bool :=
  c.args.any fun a => !a.isPositional && a.action != .help && a.action != .version && !a.required

def helpUsage (c : Command) : String :=
  c.usageName ++ (if c.showsOptions then " [OPTIONS]" else "") ++
    String.join ((c.usageArgs []).map (" " ++ ·)) ++
    (if c.subcommands.isEmpty then ""
     else if c.subcommandRequired then " <COMMAND>" else " [COMMAND]")

/-- The usage line of an error, given the identifiers of the arguments already given: the
help usage line when none were, else the name, those arguments and the required ones. -/
def usage (c : Command) (given : List String) : String :=
  if given.isEmpty then c.helpUsage
  else c.usageName ++ String.join ((c.usageArgs given).map (" " ++ ·)) ++
    (if c.subcommandRequired then " <COMMAND>" else "")

/-- The brackets after an argument's words: its environment variable with the value it has,
its default and its choices. -/
def bracketsOf (a : ArgSpec) (env : Environment) (long : Bool) : List String :=
  let envPart := match a.env with
    | some n => ["[env: " ++ n ++ "=" ++ (env.get? n).getD "" ++ "]"]
    | none => []
  let defaultPart := match a.default with
    | some d => if a.takesValue then ["[default: " ++ quotedIfBlank d ++ "]"] else []
    | none => []
  let choicePart :=
    if (long && a.rule.explainsChoices) || a.choices.isEmpty then []
    else ["[possible values: " ++ String.intercalate ", " (a.choices.map quotedIfBlank) ++ "]"]
  envPart ++ defaultPart ++ choicePart

/-- The explained choices of an argument in the long help, under its words. -/
def choiceBlock (a : ArgSpec) (indent : Nat) (wordsEmpty : Bool) : String :=
  match a.rule with
  | .oneOf cs =>
    let widest := (cs.map (·.name.length)).foldl max 0
    (if wordsEmpty then "" else "\n\n" ++ spaces indent) ++ "Possible values:" ++
      String.join (cs.map fun ch =>
        "\n" ++ spaces indent ++ "- " ++ ch.name ++
          (if ch.help.isEmpty then ""
           else ": " ++ spaces (widest - ch.name.length) ++ indentAfterFirst ch.help (indent + 2)))
  | _ => ""

/-- One entry of an argument section. -/
def argEntry (a : ArgSpec) (env : Environment) (long : Bool) (widest : Nat) : String :=
  let name := "  " ++
    (match a.short with
     | some ch => "-" ++ ch.toString
     | none => if a.long.isSome then "    " else "") ++
    (match a.long with
     | some l => (if a.short.isSome then ", " else "") ++ "--" ++ l
     | none => "") ++
    a.suffix a.required
  let width := a.display.length
  let pad := if long then 0
    else if a.isPositional then widest + 2 - width
    else widest + (if a.long.isSome then 2 else 6) - width
  let indent := if long then 10 else widest + 4
  let about := if long then a.longHelp.getD a.help else a.help
  let brackets := String.intercalate (if long then "\n" else " ") (bracketsOf a env long)
  let words := if brackets.isEmpty then about
    else if about.isEmpty then brackets
    else about ++ (if long then "\n\n" else " ") ++ brackets
  name ++ spaces pad ++ (if long then "\n" ++ spaces 10 else "") ++ indentAfterFirst words indent ++
    (if long && a.takesValue && a.rule.explainsChoices then choiceBlock a indent words.isEmpty
     else "")

/-- An argument section: the entries in order, one line apart, or one blank line apart in the
long help. -/
def argSection (args : List ArgSpec) (env : Environment) (long : Bool)
    (key : ArgSpec → Nat × String) : String :=
  let widest := ((args.filter ArgSpec.measured).map (·.display.length)).foldl max 2
  let sorted := args.mergeSort fun a b =>
    let ka := key a
    let kb := key b
    ka.1 < kb.1 || (ka.1 == kb.1 && ka.2 ≤ kb.2)
  String.intercalate (if long then "\n\n" else "\n") (sorted.map fun a => argEntry a env long widest)

def commandSection (subs : List Command) : String :=
  let widest := (subs.map (·.name.length)).foldl max 2
  let sorted := subs.mergeSort fun a b => a.order < b.order || (a.order == b.order && a.name ≤ b.name)
  String.intercalate "\n" (sorted.map fun s =>
    "  " ++ s.name ++ spaces (widest + 2 - s.name.length) ++ s.about)

/-- The help of a command, short or long; the long help is the short one unless it says
more. -/
def helpText (c : Command) (env : Environment) (long : Bool) : String :=
  let long := long && c.hasLongHelp
  let head := (if c.about.isEmpty then "" else c.about ++ "\n\n") ++ "Usage: " ++ c.helpUsage
  let pos := c.args.filter ArgSpec.isPositional
  let opts := c.args.filter fun a => !a.isPositional
  let sections :=
    (if c.subcommands.isEmpty then [] else ["Commands:\n" ++ commandSection c.subcommands]) ++
    (if pos.isEmpty then []
     else ["Arguments:\n" ++ argSection pos env long fun a => (a.position.getD 0, "")]) ++
    (if opts.isEmpty then [] else ["Options:\n" ++ argSection opts env long ArgSpec.optionKey])
  trimTrailing (String.intercalate "\n\n" (head :: sections)) ++ "\n"

def versionText (c : Command) : String := c.name ++ " " ++ c.version.getD "" ++ "\n"

end Command

end ControlPlane
