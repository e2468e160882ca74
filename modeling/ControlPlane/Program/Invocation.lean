import ControlPlane.CommandLine.Parse
import ControlPlane.Reconcile.Mode

/-!
# The program's command line

`svc-registry` takes three global arguments: the configuration file (`-c`, `--config`), the
log level (`--log-level`, `info` by default) and JSON logs (`--log-json`), each also read
from an environment variable. Its subcommands are `run`, which starts the control plane with
its health and metrics servers, and `consistency`, which asks a running plane for a reconcile
pass in a mode.

An invocation is what a command line that reads asks for.
-/

namespace ControlPlane

def programName : String := "svc-registry"

def programVersion : String := "0.2.0"

def programAbout : String :=
  "Service registry and dynamic configuration control plane on a coordination KV store"

def configArg : ArgSpec :=
  { id := "config", short := some 'c', long := some "config", valueName := "CONFIG",
    rule := .path, help := "YAML config file; built-in defaults apply when omitted",
    env := some "SVC_REGISTRY_CONFIG", global := true, order := 0 }

def logLevelArg : ArgSpec :=
  { id := "log_level", long := some "log-level", valueName := "LOG_LEVEL",
    help := "Log level (trace, debug, info, warn, error)", env := some "LOG_LEVEL",
    default := some "info", global := true, order := 1 }

def logJsonArg : ArgSpec :=
  { id := "log_json", long := some "log-json", action := .setTrue, rule := .boolean,
    help := "Output logs as JSON", env := some "LOG_JSON", global := true, order := 2 }

/-- The `run` subcommand. -/
def runCommand : Command :=
  { name := "run", usageName := "run", about := "Start the control plane", order := 0,
    args := [
      { id := "health_addr", long := some "health-addr", valueName := "HEALTH_ADDR",
        rule := .socketAddr, help := "Health server bind address", env := some "HEALTH_ADDR",
        default := some "0.0.0.0:8081", order := 0 },
      { id := "metrics_addr", long := some "metrics-addr", valueName := "METRICS_ADDR",
        rule := .socketAddr, help := "Metrics server bind address", env := some "METRICS_ADDR",
        default := some "0.0.0.0:8080", order := 1 }] }

def modeChoices : List Choice :=
  [{ name := "print", help := "Report store descriptors the index is missing" },
   { name := "fix", help := "Repair those rows from the store" },
   { name := "reverse", help := "Report index rows without a store descriptor" }]

/-- The `consistency` subcommand. -/
def consistencyCommand : Command :=
  { name := "consistency", usageName := "consistency", order := 1,
    about := "Compare store descriptors with the search index of a running plane",
    args := [
      { id := "mode", valueName := "MODE", position := some 1, rule := .oneOf modeChoices,
        required := true },
      { id := "admin_addr", long := some "admin-addr", valueName := "ADMIN_ADDR",
        rule := .socketAddr, help := "Health server address of the running control plane",
        env := some "ADMIN_ADDR", default := some "127.0.0.1:8081", order := 0 },
      { id := "timeout_secs", long := some "timeout-secs", valueName := "TIMEOUT_SECS",
        rule := .count, help := "Give up waiting for the pass after this many seconds",
        default := some "300", order := 1 }] }

/-- The program's command line. -/
def programCommand : Command :=
  Command.program
    { name := programName, usageName := programName, about := programAbout,
      version := some programVersion, args := [configArg, logLevelArg, logJsonArg],
      subcommandRequired := true, helpWhenEmpty := true }
    [runCommand, consistencyCommand]

/-- What the program is asked to do. -/
inductive ProgramTask where
  /-- Start the control plane, serving health and metrics at two addresses. -/
  | run (health metrics : SocketAddr)
  /-- Ask the plane serving health at an address for a pass, waiting at most some seconds. -/
  | consistency (mode : ReconcileMode) (admin : SocketAddr) (timeoutSecs : Nat)
  deriving Inhabited

/-- What a command line that reads asks for. -/
structure Invocation where
  config : Option String
  logLevel : String
  logJson : Bool
  task : ProgramTask
  deriving Inhabited

namespace Invocation

def text? (m : Matches) (id : String) : Option String :=
  match m.value? id with
  | some (.text s) => some s
  | _ => none

def addr (m : Matches) (id : String) : SocketAddr :=
  match m.value? id with
  | some (.addr a) => a
  | _ => default

/-- The invocation of what a command line gave. -/
def ofMatches (m : Matches) : Invocation :=
  let task := match m with
    | .mk _ (some ("consistency", sub)) =>
      let mode := match text? sub "mode" with
        | some "fix" => ReconcileMode.fix
        | some "reverse" => .reverse
        | _ => .print
      let timeout := match sub.value? "timeout_secs" with
        | some (.count n) => n
        | _ => 300
      ProgramTask.consistency mode (addr sub "admin_addr") timeout
    | .mk _ (some (_, sub)) => .run (addr sub "health_addr") (addr sub "metrics_addr")
    | .mk _ none => .run default default
  { config := text? m "config", logLevel := (text? m "log_level").getD "info",
    logJson := match m.value? "log_json" with
      | some (.switch b) => b
      | _ => false,
    task }

end Invocation

def readInvocation (env : Environment) (words : List String) : Except Halt Invocation :=
  (programCommand.parse env words).map Invocation.ofMatches

end ControlPlane
