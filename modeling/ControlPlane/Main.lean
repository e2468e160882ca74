import ControlPlane.Program.Run
import Std.Time.DateTime.Timestamp

/-!
# The command line

Runs the program on the process's arguments: it reads the environment variables the program
consults and the configuration file the command line names, writes what the run writes, and
exits with its status. A plane that serves keeps the process alive until it is stopped.
-/

open ControlPlane

/-- Waits until the process is stopped. -/
partial def serveUntilStopped : IO Unit := do
  IO.sleep 3600000
  serveUntilStopped

/-- The host the process runs on: its environment, the named configuration file and the
current time. -/
def currentHost (args : List String) : IO Host := do
  let env ← programVariables.filterMapM fun n => do pure ((← IO.getEnv n).map (n, ·))
  let now ← Std.Time.Timestamp.now
  let nanos := now.toNanosecondsSinceUnixEpoch.val.toNat
  let host : Host := { env, stamp := utcStamp nanos }
  match configPathOf env args with
  | some path =>
    try
      let text ← IO.FS.readFile path
      pure { host with files := host.files.write path text }
    catch _ => pure host
  | none => pure host

def main (args : List String) : IO UInt32 := do
  let o := runProgram (← currentHost args) args
  IO.print o.stdout
  IO.eprint o.stderr
  (← IO.getStdout).flush
  match o.exit with
  | some n => pure n.toUInt32
  | none =>
    serveUntilStopped
    pure 0
