import ControlPlane.Json.Write
import ControlPlane.Text.Quoted

/-!
# Log lines

A log event has a level, a target (the part of the program that wrote it), a message and
named fields. It is written as one line: either as text, the time, the level padded to five
columns, the target, the message and `name=value` fields, in colour unless colour is turned
off; or as a JSON object with the time, the level, the fields (the message first) and the
target.

A level admits the events at it and at the more severe levels.
-/

namespace ControlPlane

/-- How severe an event is, from the most to the least. -/
inductive LogLevel where
  | error
  | warn
  | info
  | debug
  | trace
  deriving Inhabited, BEq

namespace LogLevel

/-- The rank of a level: the more severe, the lower. -/
def rank : LogLevel → Nat
  | .error => 0
  | .warn => 1
  | .info => 2
  | .debug => 3
  | .trace => 4

def admits (threshold level : LogLevel) : Bool := level.rank ≤ threshold.rank

/-- The level a name asks for, in any case; any other name asks for `info`. -/
def ofName (s : String) : LogLevel :=
  match s.toLower with
  | "trace" => .trace
  | "debug" => .debug
  | "warn" => .warn
  | "error" => .error
  | _ => .info

/-- The upper-case name of a level. -/
def label : LogLevel → String
  | .error => "ERROR"
  | .warn => "WARN"
  | .info => "INFO"
  | .debug => "DEBUG"
  | .trace => "TRACE"

def padded (l : LogLevel) : String := if l.label.length < 5 then " " ++ l.label else l.label

/-- The colour code of a level. -/
def colour : LogLevel → String
  | .error => "31"
  | .warn => "33"
  | .info => "32"
  | .debug => "34"
  | .trace => "35"

end LogLevel

/-- The value of a field. -/
inductive FieldValue where
  /-- Text shown as it is. -/
  | text (s : String)
  /-- Text shown quoted in text lines. -/
  | quotedText (s : String)
  | nat (n : Nat)
  | bool (b : Bool)
  deriving Inhabited

/-- One event. -/
structure LogEvent where
  level : LogLevel
  target : String
  message : String
  fields : List (String × FieldValue) := []
  deriving Inhabited

/-- How events are written. -/
inductive LogStyle where
  | coloured
  | plain
  | json
  deriving Inhabited, BEq

def styled (code text : String) : String := "\x1b[" ++ code ++ "m" ++ text ++ "\x1b[0m"

namespace FieldValue

def inText : FieldValue → String
  | .text s => s
  | .quotedText s => quoted s
  | .nat n => toString n
  | .bool b => toString b

def inJson : FieldValue → Json
  | .text s => .str s
  | .quotedText s => .str s
  | .nat n => .nat n
  | .bool b => .bool b

end FieldValue

namespace LogEvent

/-- The event as one line, stamped with a time. -/
def render (style : LogStyle) (stamp : String) (e : LogEvent) : String :=
  match style with
  | .json =>
    Json.write (.obj [("timestamp", .str stamp), ("level", .str e.level.label),
      ("fields", .obj (("message", .str e.message) :: e.fields.map fun (k, v) => (k, v.inJson))),
      ("target", .str e.target)]) ++ "\n"
  | .coloured =>
    styled "2" stamp ++ " " ++ styled e.level.colour e.level.padded ++ " " ++
      styled "2" e.target ++ styled "2" ":" ++ " " ++ e.message ++
      String.join (e.fields.map fun (k, v) => " " ++ styled "3" k ++ styled "2" "=" ++ v.inText) ++
      "\n"
  | .plain =>
    stamp ++ " " ++ e.level.padded ++ " " ++ e.target ++ ": " ++ e.message ++
      String.join (e.fields.map fun (k, v) => " " ++ k ++ "=" ++ v.inText) ++ "\n"

end LogEvent

def twoDigits (n : Nat) : String := if n < 10 then "0" ++ toString n else toString n

def zeroPadded (width n : Nat) : String :=
  let s := toString n
  String.ofList (List.replicate (width - s.length) '0') ++ s

/-- The year, month and day of a count of days since 1970-01-01, in the proleptic Gregorian
calendar. -/
def civilDate (days : Nat) : Nat × Nat × Nat :=
  let z := days + 719468
  let era := z / 146097
  let doe := z - era * 146097
  let yoe := (doe - doe / 1460 + doe / 36524 - doe / 146096) / 365
  let doy := doe - (365 * yoe + yoe / 4 - yoe / 100)
  let mp := (5 * doy + 2) / 153
  let d := doy - (153 * mp + 2) / 5 + 1
  let m := if mp < 10 then mp + 3 else mp - 9
  let y := yoe + era * 400 + (if m ≤ 2 then 1 else 0)
  (y, m, d)

/-- The UTC time of a count of nanoseconds since 1970-01-01, to the microsecond:
`YYYY-MM-DDTHH:MM:SS.ffffffZ`. -/
def utcStamp (nanos : Nat) : String :=
  let secs := nanos / 1000000000
  let (y, m, d) := civilDate (secs / 86400)
  let daySecs := secs % 86400
  zeroPadded 4 y ++ "-" ++ twoDigits m ++ "-" ++ twoDigits d ++ "T" ++
    twoDigits (daySecs / 3600) ++ ":" ++ twoDigits (daySecs % 3600 / 60) ++ ":" ++
    twoDigits (daySecs % 60) ++ "." ++ zeroPadded 6 (nanos % 1000000000 / 1000) ++ "Z"

end ControlPlane
