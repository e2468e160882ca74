import ControlPlane.Net.Address

/-!
# Command-line grammar

A command names its arguments and its subcommands. An argument is a switch, an option that
takes one value, or a positional value; it may be read from an environment variable when the
command line leaves it out, and may fall back to a default. A value is read by a rule: any
text, a non-empty path, a socket address, an unsigned 64-bit count, one of a list of named
choices, or `true`/`false`.

Besides its own arguments a command carries a help switch (`-h`, `--help`), the root a version
switch (`-V`, `--version`), and every subcommand the root's global arguments. Help lists
arguments by their order number, then by their short letter or long name.
-/

namespace ControlPlane

abbrev Environment := List (String × String)

def Environment.get? (env : Environment) (name : String) : Option String :=
  (env.find? (·.1 == name)).map (·.2)

/-- A named value an argument accepts, with the words help shows beside it. -/
structure Choice where
  name : String
  help : String := ""
  deriving Inhabited

/-- How the text given to an argument is read. -/
inductive ValueRule where
  | text
  | path
  | socketAddr
  | count
  | oneOf (choices : List Choice)
  | boolean
  deriving Inhabited

/-- What an argument holds once read. -/
inductive ArgValue where
  | text (s : String)
  | addr (a : SocketAddr)
  | count (n : Nat)
  | switch (b : Bool)
  deriving Inhabited

/-- Why a value was refused. -/
inductive ValueFault where
  /-- The rule needs a non-empty value. -/
  | empty
  /-- The value is none of the named choices. -/
  | notOneOf (choices : List String)
  /-- The value does not read, for the reason given. -/
  | malformed (reason : String)
  deriving Inhabited

def maxCount : Nat := Nat.pow 2 64 - 1

/-- Reads an unsigned 64-bit decimal count: an optional `+`, then digits, read left to right;
the first character that is not a digit, or the first digit that overflows, stops it. -/
def readCount (s : String) : Except String Nat :=
  let cs := s.toList
  let digits := match cs with
    | '+' :: rest => if rest.isEmpty then cs else rest
    | _ => cs
  if cs.isEmpty then throw "cannot parse integer from empty string"
  else digits.foldlM (fun acc c =>
    if c.isDigit then
      let n := acc * 10 + (c.toNat - '0'.toNat)
      if n > maxCount then throw "number too large to fit in target type" else pure n
    else throw "invalid digit found in string") 0

namespace ValueRule

def choiceNames : ValueRule → List String
  | .oneOf cs => cs.map (·.name)
  | .boolean => ["true", "false"]
  | _ => []

def explainsChoices : ValueRule → Bool
  | .oneOf cs => cs.any fun c => !c.help.isEmpty
  | _ => false

/-- Reads a value by the rule. -/
def read (r : ValueRule) (s : String) : Except ValueFault ArgValue :=
  match r with
  | .text => pure (.text s)
  | .path => if s.isEmpty then throw .empty else pure (.text s)
  | .socketAddr =>
    match SocketAddr.parse? s with
    | some a => pure (.addr a)
    | none => throw (.malformed "invalid socket address syntax")
  | .count =>
    match readCount s with
    | .ok n => pure (.count n)
    | .error why => throw (.malformed why)
  | .oneOf cs =>
    if cs.any (·.name == s) then pure (.text s) else throw (.notOneOf (cs.map (·.name)))
  | .boolean =>
    match s with
    | "true" => pure (.switch true)
    | "false" => pure (.switch false)
    | _ => throw (.notOneOf ["true", "false"])

end ValueRule

/-- What an argument does when it is met. -/
inductive ArgAction where
  /-- Keeps one value. -/
  | set
  /-- A switch: keeps `true` when present. -/
  | setTrue
  /-- Collects every value given. -/
  | append
  /-- Shows the command's help. -/
  | help
  /-- Shows the program's version. -/
  | version
  deriving Inhabited, BEq

/-- An argument of a command. -/
structure ArgSpec where
  id : String
  short : Option Char := none
  long : Option String := none
  /-- The placeholder of the value, for arguments that take one. -/
  valueName : String := ""
  /-- The position, for positional arguments, counted from one. -/
  position : Option Nat := none
  action : ArgAction := .set
  rule : ValueRule := .text
  help : String := ""
  /-- The words of the long help, when they differ from the short help. -/
  longHelp : Option String := none
  env : Option String := none
  default : Option String := none
  required : Bool := false
  global : Bool := false
  /-- Where help lists the argument among the others. -/
  order : Nat := 999
  deriving Inhabited

namespace ArgSpec

def isPositional (a : ArgSpec) : Bool := a.position.isSome

def takesValue (a : ArgSpec) : Bool := a.action == .set || a.action == .append

def choices (a : ArgSpec) : List String := if a.takesValue then a.rule.choiceNames else []

/-- The value placeholder: `<NAME>`, or `[NAME]` for an optional positional, followed by
`...` when the argument collects values. -/
def placeholder (a : ArgSpec) (required : Bool) : String :=
  let name := if a.isPositional && !required then "[" ++ a.valueName ++ "]"
    else "<" ++ a.valueName ++ ">"
  name ++ (if a.isPositional && a.action == .append then "..." else "")

/-- What follows the argument's name: a space and the placeholder for options, the
placeholder alone for positionals. -/
def suffix (a : ArgSpec) (required : Bool) : String :=
  if a.isPositional then a.placeholder required
  else if a.takesValue then " " ++ a.placeholder required
  else ""

/-- How messages name the argument: its long name, else its short letter, then its
placeholder; a positional by its placeholder alone. -/
def shown (a : ArgSpec) (required : Bool) : String :=
  let name := match a.long, a.short with
    | some l, _ => "--" ++ l
    | none, some c => "-" ++ c.toString
    | none, none => ""
  name ++ a.suffix required

def display (a : ArgSpec) : String := a.shown a.required

def measured (a : ArgSpec) : Bool := a.takesValue || a.long.isSome || a.short.isNone

/-- The key help sorts options by: the order number, then the lower-case short letter
followed by `0` for a lower-case letter and `1` otherwise, else the long name. -/
def optionKey (a : ArgSpec) : Nat × String :=
  let key := match a.short, a.long with
    | some c, _ => c.toLower.toString ++ (if c.isLower then "0" else "1")
    | none, some l => l
    | none, none => "\x7b" ++ a.id
  (a.order, key)

end ArgSpec

/-- A command: its arguments, its subcommands, and the words its help shows. -/
structure Command where
  name : String
  /-- The words usage lines start with: the program's name and the path to the command. -/
  usageName : String
  about : String := ""
  version : Option String := none
  args : List ArgSpec := []
  subcommands : List Command := []
  /-- Whether a subcommand must follow. -/
  subcommandRequired : Bool := false
  /-- Whether a command line with nothing given shows the help instead. -/
  helpWhenEmpty : Bool := false
  order : Nat := 999

instance : Inhabited Command := ⟨{ name := "", usageName := "" }⟩

namespace Command

def findSub (c : Command) (name : String) : Option Command :=
  c.subcommands.find? (·.name == name)

def findArg (c : Command) (id : String) : Option ArgSpec := c.args.find? (·.id == id)

def findLong (c : Command) (name : String) : Option ArgSpec :=
  c.args.find? (·.long == some name)

def findShort (c : Command) (letter : Char) : Option ArgSpec :=
  c.args.find? (·.short == some letter)

def positionalAt (c : Command) (n : Nat) : Option ArgSpec :=
  c.args.find? (·.position == some n)

def positionals (c : Command) : List ArgSpec :=
  (c.args.filter ArgSpec.isPositional).mergeSort fun a b =>
    a.position.getD 0 ≤ b.position.getD 0

def hasPositionals (c : Command) : Bool := c.args.any ArgSpec.isPositional

/-- Whether the long help says more than the short one: some argument has long words, or
choices with words of their own. -/
def hasLongHelp (c : Command) : Bool :=
  c.args.any fun a => a.longHelp.isSome || (a.takesValue && a.rule.explainsChoices)

/-- The help switch of a command, worded by whether its long help says more. -/
def helpSwitch (longHelp : Bool) : ArgSpec :=
  if longHelp then
    { id := "help", short := some 'h', long := some "help", action := .help,
      help := "Print help (see more with '--help')",
      longHelp := some "Print help (see a summary with '-h')" }
  else { id := "help", short := some 'h', long := some "help", action := .help, help := "Print help" }

def versionSwitch : ArgSpec :=
  { id := "version", short := some 'V', long := some "version", action := .version,
    help := "Print version" }

def withSwitches (c : Command) : Command :=
  let extra := [helpSwitch c.hasLongHelp] ++ (if c.version.isSome then [versionSwitch] else [])
  { c with args := c.args ++ extra }

def helpCommand (parent : String) : Command :=
  { name := "help", usageName := parent ++ " help",
    about := "Print this message or the help of the given subcommand(s)",
    args := [{ id := "subcommand", valueName := "COMMAND", position := some 1,
               action := .append, help := "Print help for the subcommand(s)" }] }

/-- A program: the root with its switches, and each subcommand given the root's global
arguments and its own switches, followed by the help subcommand. -/
def program (root : Command) (subs : List Command) : Command :=
  let globals := root.args.filter (·.global)
  let subs := subs.map fun s =>
    withSwitches { s with usageName := root.usageName ++ " " ++ s.name, args := s.args ++ globals }
  { withSwitches root with subcommands := subs ++ [helpCommand root.usageName] }

end Command

end ControlPlane
