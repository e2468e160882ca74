import ControlPlane.CommandLine.Failure
import ControlPlane.Text.Similarity

/-!
# Reading a command line

The words of a command line are read left to right against a command. A word naming a
subcommand hands the rest of the line to it, unless a positional value is being collected, an
option waits for its value or `--` came before; `help` instead shows the help of the subcommands named after it. `--name`
and `--name=value` name options by their long name; `-abc` names switches by their letters, and
the first letter that takes a value takes the rest of the word, after an optional `=`. A word
after an option that still needs its value is that value; any other word fills the next
positional argument.

An option's value is read when the next argument is met, or at the end, so a fault in it
yields to an unknown argument found first. Once the line is read, the subcommand's
arguments are complete; then the environment fills what the line left out, then the defaults,
and last the command checks that what it requires is there.

Reading stops early to show help or the version, or to refuse the line.
-/

namespace ControlPlane

/-- Where an argument's values came from; a later kind outranks an earlier. -/
inductive ValueSource where
  | default
  | env
  | commandLine
  deriving Inhabited, BEq

def ValueSource.rank : ValueSource → Nat
  | .default => 0
  | .env => 1
  | .commandLine => 2

/-- How an argument was named. -/
inductive Spelling where
  | short
  | long
  | position
  /-- Not named: filled from the environment or a default. -/
  | absent
  deriving Inhabited, BEq

/-- An argument that received values. -/
structure Matched where
  id : String
  values : List ArgValue
  source : ValueSource
  deriving Inhabited

/-- The arguments a command line gave a command, and what it gave the subcommand, if one
followed. -/
inductive Matches where
  | mk (args : List Matched) (sub : Option (String × Matches))
  deriving Inhabited

/-- An argument whose values are still being collected. -/
structure Pending where
  arg : ArgSpec
  spelling : Spelling
  raw : List String
  deriving Inhabited

/-- What the next word is expected to be. -/
inductive Awaiting where
  | nothing
  /-- The value of an option. -/
  | value (id : String)
  /-- One more value of a positional argument that collects them. -/
  | more (id : String)
  deriving Inhabited

/-- The state of reading one command's words. -/
structure Scan where
  matched : List Matched := []
  pending : Option Pending := none
  /-- The position the next positional value fills. -/
  position : Nat := 1
  /-- Whether `--` came: every later word is a positional value. -/
  trailing : Bool := false
  awaiting : Awaiting := .nothing
  deriving Inhabited

/-- Why reading stopped before the end. -/
inductive Halt where
  | help (text : String)
  | version (text : String)
  | refuse (e : UsageError)
  deriving Inhabited

namespace Scan

def gives (s : Scan) (id : String) : Bool :=
  s.matched.any fun m => m.id == id && m.source != .default

def given (s : Scan) : List String :=
  (s.matched.filter (·.source != .default)).map (·.id)

def has (s : Scan) (id : String) : Bool := s.matched.any (·.id == id)

end Scan

def ArgSpec.defaultValue (a : ArgSpec) : Option String :=
  match a.default with
  | some d => some d
  | none => if a.action == .setTrue then some "false" else none

namespace Command

def requiredIds (c : Command) : List String := (c.args.filter (·.required)).map (·.id)

/-- Reads values by an argument's rule. -/
def readValues (a : ArgSpec) (raw : List String) : Except Halt (List ArgValue) :=
  raw.mapM fun v =>
    match a.rule.read v with
    | .ok x => pure x
    | .error .empty => throw (.refuse (.emptyValue a.display []))
    | .error (.notOneOf cs) => throw (.refuse (.invalidValue v a.display cs (closestWord v cs)))
    | .error (.malformed why) => throw (.refuse (.malformedValue v a.display why))

/-- Gives an argument its values: shows help or the version for those switches, refuses an
option without its value, an argument given twice and a value that does not read, and keeps
the values otherwise. A switch given without a value holds `true`. -/
def apply (c : Command) (env : Environment) (spelling : Spelling) (source : ValueSource)
    (a : ArgSpec) (raw : List String) (s : Scan) : Except Halt Scan := do
  match a.action with
  | .help => throw (.help (c.helpText env (spelling != .short)))
  | .version => throw (.version c.versionText)
  | action =>
    if source == .commandLine && raw.isEmpty && action == .set then
      throw (.refuse (.emptyValue a.display a.choices))
    let raw := if raw.isEmpty && action == .setTrue then ["true"] else raw
    if action != .append && s.has a.id then
      throw (.refuse (.repeated a.display (c.usage [])))
    let values ← readValues a raw
    if action == .append && s.has a.id then
      pure { s with matched := s.matched.map fun m =>
        if m.id == a.id then { m with values := m.values ++ values } else m }
    else pure { s with matched := s.matched ++ [⟨a.id, values, source⟩] }

def resolvePending (c : Command) (env : Environment) (s : Scan) : Except Halt Scan :=
  match s.pending with
  | none => pure s
  | some p => c.apply env p.spelling .commandLine p.arg p.raw { s with pending := none }

def react (c : Command) (env : Environment) (spelling : Spelling) (source : ValueSource)
    (a : ArgSpec) (raw : List String) (s : Scan) : Except Halt Scan := do
  let s ← c.resolvePending env s
  c.apply env spelling source a raw s

/-- The state after giving the pending argument its values when a fault found meanwhile is
reported instead: a value that does not read still marks its argument given, and an argument
given twice is forgotten. -/
def settleQuietly (s : Scan) : Scan :=
  match s.pending with
  | none => s
  | some p =>
    let s := { s with pending := none }
    if p.raw.isEmpty && p.arg.action == .set then s
    else if p.arg.action != .append && s.has p.arg.id then
      { s with matched := s.matched.filter (·.id != p.arg.id) }
    else
      let values := (readValues p.arg p.raw).toOption.getD []
      if s.has p.arg.id then s else { s with matched := s.matched ++ [⟨p.arg.id, values, .commandLine⟩] }

/-- An option met: a value attached to it is its value; otherwise it waits for the next
word. -/
def optionValue (c : Command) (env : Environment) (a : ArgSpec) (spelling : Spelling)
    (attached : Option String) (s : Scan) : Except Halt Scan := do
  match attached with
  | some v =>
    let s ← c.react env spelling .commandLine a [v] s
    pure { s with awaiting := .nothing }
  | none =>
    let s ← c.resolvePending env s
    pure { s with pending := some ⟨a, spelling, []⟩, awaiting := .value a.id }

/-- The refusal of an unknown long name: it offers the most similar long name of the command,
else of a subcommand named later on the line, and counts the offered argument as given. -/
def unknownLong (c : Command) (name : String) (later : List String) (s : Scan) : UsageError :=
  let offer : Option (String × Option String) :=
    match closestWord name (c.args.filterMap (·.long)) with
    | some l => some (l, none)
    | none =>
      let found := c.subcommands.filterMap fun sub =>
        match closestWord name (sub.args.filterMap (·.long)), later.findIdx? (· == sub.name) with
        | some l, some i => some (i, l, sub.name)
        | _, _ => none
      let best := found.foldl (fun acc x =>
        match acc with
        | none => some x
        | some b => if x.1 < b.1 then some x else some b) none
      best.map fun (_, l, sub) => (l, some sub)
  let s : Scan := match offer.bind fun (l, _) => c.findLong l with
    | some a =>
      if s.has a.id then s
      else { s with matched := s.matched ++ [({ id := a.id, values := [], source := .commandLine } : Matched)] }
    | none => s
  let given := s.given.filter fun id => !c.requiredIds.contains id
  let flag := "--" ++ name
  let tips :=
    (if offer.isNone && !s.trailing && c.hasPositionals then
      ["to pass '" ++ flag ++ "' as a value, use '-- " ++ flag ++ "'"] else []) ++
    (match offer with
     | some (l, some sub) => ["'" ++ sub ++ " --" ++ l ++ "' exists"]
     | _ => [])
  let similar := match offer with
    | some (l, none) => some ("--" ++ l)
    | _ => none
  .unknownArgument flag similar tips (c.usage given)

/-- A word naming a long option, with its attached value if any. -/
def readLong (c : Command) (env : Environment) (name : String) (attached : Option String)
    (later : List String) (s : Scan) : Except Halt Scan :=
  match c.findLong name with
  | some a =>
    if a.takesValue then c.optionValue env a .long attached s
    else
      match attached with
      | some v =>
        let given := (s.given.filter fun id => !c.requiredIds.contains id) ++ [a.id]
        throw (.refuse (.unexpectedValue v a.display (c.usage given)))
      | none => do
        let s ← c.react env .long .commandLine a [] s
        pure { s with awaiting := .nothing }
  | none => throw (.refuse (c.unknownLong name later (settleQuietly s)))

/-- The letters of a word of short names. -/
def readShort (c : Command) (env : Environment) : List Char → Scan → Except Halt Scan
  | [], s => pure s
  | ch :: more, s =>
    match c.findShort ch with
    | some a =>
      if a.takesValue then
        let attached := match more with
          | [] => none
          | '=' :: rest => some (String.ofList rest)
          | rest => some (String.ofList rest)
        c.optionValue env a .short attached s
      else do
        let s ← c.react env .short .commandLine a [] s
        readShort c env more { s with awaiting := .nothing }
    | none =>
      let flag := "-" ++ ch.toString
      let tips := if !s.trailing && c.hasPositionals then
        ["to pass '" ++ flag ++ "' as a value, use '-- " ++ flag ++ "'"] else []
      throw (.refuse (.unknownArgument flag none tips (c.usage [])))

def looksLikeName (w : String) : Bool := w.startsWith "-" && w != "-" && w != "--"

/-- The refusal of a word that fills no positional argument. -/
def strayWord (c : Command) (w : String) (trailing : Bool) : UsageError :=
  let tip := !trailing && c.hasPositionals && looksLikeName w
  if trailing && (c.findSub w).isSome then
    .unknownArgument w none ["subcommand '" ++ w ++ "' exists; to use it, remove the '--' before it"]
      (c.usage [])
  else if !c.subcommands.isEmpty then
    let similar := similarWords w (c.subcommands.map (·.name))
    if !similar.isEmpty then
      .unknownSubcommand w similar
        (if tip then ["to pass '" ++ w ++ "' as a value, use '" ++ c.usageName ++ " -- " ++ w ++ "'"]
         else [])
        (c.usage [])
    else if !c.hasPositionals then .unknownSubcommand w [] [] (c.usage [])
    else .unknownArgument w none (if tip then ["to pass '" ++ w ++ "' as a value, use '-- " ++ w ++ "'"] else []) (c.usage [])
  else
    .unknownArgument w none (if tip then ["to pass '" ++ w ++ "' as a value, use '-- " ++ w ++ "'"] else [])
      (c.usage [])

/-- A word that fills the next positional argument. -/
def readPositional (c : Command) (env : Environment) (w : String) (s : Scan) : Except Halt Scan :=
  match c.positionalAt s.position with
  | some a => do
    let collecting := (s.pending.map (·.arg.id)) == some a.id && a.action == .append
    let s ← if collecting then pure s else c.resolvePending env s
    let pending := match s.pending with
      | some p => if p.arg.id == a.id then { p with raw := p.raw ++ [w] } else ⟨a, .position, [w]⟩
      | none => ⟨a, .position, [w]⟩
    let s := { s with pending := some pending }
    if a.action == .append then pure { s with awaiting := .more a.id }
    else pure { s with position := s.position + 1, awaiting := .nothing }
  | none => throw (.refuse (c.strayWord w s.trailing))

def splitAttached (body : List Char) : String × Option String :=
  match body.findIdx? (· == '=') with
  | some i => (String.ofList (body.take i), some (String.ofList (body.drop (i + 1))))
  | none => (String.ofList body, none)

/-- Reads one word that names no subcommand. -/
def readWord (c : Command) (env : Environment) (w : String) (later : List String) (s : Scan) :
    Except Halt Scan := do
  if s.trailing then c.readPositional env w s
  else if w == "--" then
    let s ← c.resolvePending env s
    pure { s with trailing := true }
  else if w.startsWith "--" then
    let (name, attached) := splitAttached (w.toList.drop 2)
    c.readLong env name attached later s
  else if w.startsWith "-" && w != "-" then
    c.readShort env (w.toList.drop 1) s
  else
    match s.awaiting with
    | .value _ =>
      pure { s with pending := s.pending.map (fun p => { p with raw := p.raw ++ [w] }),
                    awaiting := .nothing }
    | _ => c.readPositional env w s

/-- Shows the help of the subcommand a list of names leads to. -/
def helpAlong (c : Command) (env : Environment) : List String → Halt
  | [] => .help (c.helpText env true)
  | w :: ws =>
    match c.findSub w with
    | some sub => helpAlong sub env ws
    | none => .refuse (.unknownSubcommand w [] [] (c.usage []))

/-- The subcommand a word names, where subcommands are looked for: not after `--`, not while
a positional value is being collected, and not where an option waits for its value. -/
def subcommandAt (c : Command) (s : Scan) (w : String) : Option Command :=
  if s.trailing then none
  else match s.awaiting with
    | .more _ => none
    | .value _ => none
    | _ => c.findSub w

/-- Reads words until the end or a subcommand, which comes back with the words after it. -/
def scan (c : Command) (env : Environment) :
    List String → Scan → Except Halt (Scan × Option (Command × List String))
  | [], s => pure (s, none)
  | w :: later, s =>
    match c.subcommandAt s w with
    | some sub =>
      if sub.name == "help" then throw (c.helpAlong env later) else pure (s, some (sub, later))
    | none =>
      match c.readWord env w later s with
      | .ok s => scan c env later s
      | .error h => throw h

/-- Fills the arguments the line left out from their environment variables. -/
def addEnv (c : Command) (env : Environment) (s : Scan) : Except Halt Scan :=
  c.args.foldlM (fun s a =>
    if s.has a.id then pure s
    else match a.env.bind env.get? with
      | some v => c.react env .absent .env a [v] s
      | none => pure s) s

/-- Fills the arguments still left out from their defaults. -/
def addDefaults (c : Command) (env : Environment) (s : Scan) : Except Halt Scan :=
  c.args.foldlM (fun s a =>
    if s.has a.id then pure s
    else match a.defaultValue with
      | some v => c.react env .absent .default a [v] s
      | none => pure s) s

/-- The required arguments not given, as the refusal lists them. -/
def missingList (c : Command) (ids : List String) (s : Scan) : List String :=
  let absent := (c.requiredIds ++ ids).filter fun id => !s.gives id
  let opts := dropRepeats (absent.filterMap fun id =>
    (c.findArg id).bind fun a => if a.isPositional then none else some (a.shown true))
  let pos := (c.positionals.filter fun p => absent.contains p.id).map (·.shown true)
  opts ++ pos

/-- Checks what the command requires: something given, a subcommand, and its required
arguments. -/
def validate (c : Command) (env : Environment) (s : Scan) (hasSub : Bool) : Except Halt Unit := do
  if !hasSub && c.helpWhenEmpty && s.given.isEmpty then
    throw (.refuse (.helpInstead (c.helpText env false)))
  if !hasSub && c.subcommandRequired then
    throw (.refuse (.missingSubcommand c.usageName (c.subcommands.map (·.name)) (c.usage [])))
  let missing := c.args.filter fun a => a.required && !s.gives a.id
  if !missing.isEmpty then
    let highest := missing.foldl (fun h a => max h (a.position.getD 0)) 0
    let before := c.positionals.filter fun p => p.position.getD 0 < highest
    let ids := missing.map (·.id) ++ before.map (·.id)
    throw (.refuse (.missingArguments (c.missingList ids s) (c.usage (s.given ++ ids))))

/-- Reads a command line against a command, at most `depth` commands deep. -/
def parseDepth (env : Environment) : Nat → Command → List String → Except Halt Matches
  | 0, _, _ => pure (.mk [] none)
  | depth + 1, c, words => do
    let (s, sub) ← c.scan env words {}
    let below ← match sub with
      | some (sc, later) => do
        let m ← parseDepth env depth sc later
        pure (some (sc.name, m))
      | none => pure none
    let s ← c.resolvePending env s
    let s ← c.addEnv env s
    let s ← c.addDefaults env s
    c.validate env s below.isSome
    pure (.mk s.matched below)

def parse (c : Command) (env : Environment) (words : List String) : Except Halt Matches :=
  parseDepth env (words.length + 1) c words

end Command

namespace Matches

def subcommand : Matches → Option String
  | .mk _ sub => sub.map (·.1)

/-- What an argument holds: the deepest command's values, unless an outer command's came from
a stronger source. -/
def lookup (id : String) : Matches → Option Matched
  | .mk args sub =>
    let here := args.find? (·.id == id)
    let below := match sub with
      | some (_, m) => lookup id m
      | none => none
    match here, below with
    | some h, some b => if h.source.rank > b.source.rank then some h else some b
    | some h, none => some h
    | none, b => b

def value? (m : Matches) (id : String) : Option ArgValue :=
  (m.lookup id).bind (·.values.head?)

end Matches

end ControlPlane
