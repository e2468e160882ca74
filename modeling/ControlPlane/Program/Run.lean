import ControlPlane.Program.Invocation
import ControlPlane.Program.LogFilter
import ControlPlane.Program.Report
import ControlPlane.Index.Location
import ControlPlane.Settings

/-!
# Running the program

A run reads the command line, sets up logging, loads the configuration file if one is named,
then carries out its task:

* `run` announces itself and its settings, opens the index, and serves until it is stopped:
  it starts the periodic reconcile pass unless its period is zero, and the health and
  metrics servers, which can only bind the unspecified address on a host without a network;
* `consistency` asks the plane at the admin address for a pass, which fails on a host without
  a network.

Help and the version end the run with status 0, a refused command line with status 2, and a
failure with status 1 and a report. A plane that serves has no status until it is stopped.

Lines written by concurrent tasks are shown in the order the tasks start.
-/

namespace ControlPlane

/-- What a run of the program leaves: its exit status, none while it still runs, and what it
wrote to its output and error streams. -/
structure Outcome where
  exit : Option Nat
  stdout : String := ""
  stderr : String := ""
  deriving Inhabited

/-- What the program sees of its host: the environment, the files, and the time stamp of its
log lines. -/
structure Host where
  env : Environment := []
  files : FileSystem := FileSystem.standard
  stamp : String := ""
  deriving Inhabited

def mainTarget : String := "svc_registry"

def note (level : LogLevel) (message : String) : LogEvent :=
  { level, target := mainTarget, message }

/-- The directives the program adds to those of `RUST_LOG`: the level it was asked for, for
every target, and warnings only from the HTTP and database libraries. -/
def addedDirectives (level : LogLevel) : List LogDirective :=
  [{ level := some level }, { target := some "hyper", level := some .warn },
   { target := some "sqlx", level := some .warn }]

/-- The logger an invocation asks for, with the warnings about directives of `RUST_LOG` that
could not be read: JSON lines, or text in colour unless `NO_COLOR` is set to something. -/
def loggerFor (host : Host) (inv : Invocation) : Logger × List String :=
  let plain := match host.env.get? "NO_COLOR" with
    | some v => !v.isEmpty
    | none => false
  let (fromEnv, warnings) := LogFilter.read ((host.env.get? "RUST_LOG").getD "")
  ({ filter := (addedDirectives (LogLevel.ofName inv.logLevel)).foldl LogFilter.add fromEnv,
     stamp := host.stamp,
     style := if inv.logJson then .json else if plain then .plain else .coloured },
   warnings)

/-- The settings of the named configuration file, or the built-in ones. -/
def settingsFor (host : Host) (inv : Invocation) : Except Report Settings :=
  match inv.config with
  | some path =>
    match Settings.load host.files path with
    | .ok s => pure s
    | .error e => throw { context := "loading " ++ path, causes := [e.display] }
  | none => pure {}

/-- Whether a server can bind an address on a host without a network: only the unspecified
address. -/
def bindable (a : SocketAddr) : Bool :=
  match a.ip with
  | .v4 bits => bits = 0
  | .v6 bits => bits = 0

/-- The host and port of an address as a URL writes them: an IPv6 address in brackets as plain
groups, and no port when it is 80. -/
def urlAuthority (a : SocketAddr) : String :=
  let host := match a.ip with
    | .v4 _ => a.ip.render
    | .v6 bits =>
      let gs := IpAddr.groups bits
      let (start, len) := IpAddr.longestZeroRun gs
      let part (xs : List Nat) : String := String.intercalate ":" (xs.map IpAddr.hexText)
      "[" ++ (if len > 1 then part (gs.take start) ++ "::" ++ part (gs.drop (start + len))
        else part gs) ++ "]"
  host ++ (if a.port = 80 then "" else ":" ++ toString a.port)

/-- Why a pass could not be asked for: the host has no network. -/
def unreachable (admin : SocketAddr) (mode : ReconcileMode) : Report :=
  let os := "Network is unreachable (os error 101)"
  let url := "http://" ++ urlAuthority admin ++ "/reconcile/" ++ mode.name
  { context := "contacting control plane at " ++ admin.render,
    causes := ["error sending request for url (" ++ url ++ "): error trying to connect: tcp connect error: " ++ os,
               "error trying to connect: tcp connect error: " ++ os,
               "tcp connect error: " ++ os, os] }

def serverLines (name : String) (a : SocketAddr) (taken : Bool) : List LogEvent :=
  [note .info (name ++ " server listening on " ++ a.render)] ++
    (if bindable a && !taken then []
     else [note .error (name ++ " server error: binding " ++ name ++ " server")])

/-- The lines of a plane that serves, after it opened its index. -/
def servingLines (s : Settings) (health metrics : SocketAddr) : List LogEvent :=
  let period := s.reconcile.intervalSecs
  let reconciler := "svc_registry::reconciler"
  let same := health.render == metrics.render && health.port != 0
  [{ level := .info, target := "svc_registry::index::sqlite", message := "relational index ready",
     fields := [("url", .text s.database.url)] },
   note .info (if period > 0 then "Reconcile every " ++ toString period ++ "s"
     else "Periodic reconcile disabled"),
   note .info "Control plane running"] ++
  (if period > 0 then
    [{ level := .debug, target := reconciler, message := "index loaded", fields := [("rows", .nat 0)] },
     { level := .info, target := reconciler, message := "reconcile finished",
       fields := [("mode", .text "print"), ("store_keys", .nat 0), ("index_rows", .nat 0),
                  ("missing", .nat 0), ("fixed", .nat 0), ("orphaned", .nat 0)] }]
   else []) ++
  serverLines "Health" health false ++ serverLines "Metrics" metrics (same && bindable health)

/-- Starts the control plane: it announces itself, opens the index and serves. -/
def startPlane (host : Host) (lg : Logger) (s : Settings) (health metrics : SocketAddr) :
    Outcome :=
  let start := [note .info ("Starting " ++ programName ++ " " ++ programVersion),
    note .info ("  Service prefix: " ++ s.services.keyPrefix),
    note .info ("  Config prefix: " ++ s.configs.keyPrefix),
    note .info ("  Database: " ++ s.database.url)]
  let failed (lines : List LogEvent) (e : Error) : Outcome :=
    { exit := some 1, stdout := lg.write lines,
      stderr := Report.render { context := "connecting search index", causes := [e.display] } }
  match IndexLocation.parse s.database.url with
  | .error why => failed start ⟨.invalidParam, "invalid database url: error with configuration: " ++ why⟩
  | .ok loc =>
    match loc.openFault host.files with
    | some (stage, fault) =>
      failed (start ++ [{ level := .error, target := "svc_registry::error",
                          message := stage.failure,
                          fields := [("error", .text ("error returned from database: " ++ fault))] }])
        ⟨.systemError, stage.failure⟩
    | none => { exit := none, stdout := lg.write (start ++ servingLines s health metrics) }

/-- Runs the program on a command line. -/
def runProgram (host : Host) (args : List String) : Outcome :=
  match readInvocation host.env args with
  | .error (.help text) => { exit := some 0, stdout := text }
  | .error (.version text) => { exit := some 0, stdout := text }
  | .error (.refuse e) => { exit := some 2, stderr := e.render }
  | .ok inv =>
    let (lg, warnings) := loggerFor host inv
    let o : Outcome := match settingsFor host inv with
      | .error r => { exit := some 1, stderr := r.render }
      | .ok s =>
        match inv.task with
        | .run health metrics => startPlane host lg s health metrics
        | .consistency mode admin _ => { exit := some 1, stderr := (unreachable admin mode).render }
    { o with stderr := String.join (warnings.map (· ++ "\n")) ++ o.stderr }

/-- The status a plane leaves when it is stopped by an interrupt: its own when it ended by
itself, else 0 after a graceful shutdown. -/
def Outcome.afterInterrupt (o : Outcome) : Nat := o.exit.getD 0

def programVariables : List String :=
  ["SVC_REGISTRY_CONFIG", "LOG_LEVEL", "LOG_JSON", "HEALTH_ADDR", "METRICS_ADDR", "ADMIN_ADDR",
   "NO_COLOR"]

def configPathOf (env : Environment) (args : List String) : Option String :=
  match readInvocation env args with
  | .ok inv => inv.config
  | .error _ => none

/-- What probing a plane finds: whether both its servers accepted connections, and its exit
status once interrupted. -/
structure PlaneProbe where
  started : Bool
  exit : Nat
  deriving Inhabited

/-- Starts a plane with global arguments and two server addresses, waits for both servers,
then interrupts it. The servers accept connections only when the plane still runs and both
addresses can be bound. -/
def probePlane (host : Host) (globalArgs : List String) (health metrics : SocketAddr) :
    PlaneProbe :=
  let o := runProgram host
    (globalArgs ++ ["run", "--health-addr", health.render, "--metrics-addr", metrics.render])
  { started := o.exit.isNone && bindable health && bindable metrics && health.render != metrics.render,
    exit := o.afterInterrupt }

end ControlPlane
