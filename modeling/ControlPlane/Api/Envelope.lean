import ControlPlane.Error
import ControlPlane.Json.Basic

/-!
# Answer envelopes

Every answer of the control plane travels in an envelope: `{"ok":true,"result":...}` for a
success, `{"ok":false,"error":{"code":...,"message":...}}` for a failure. Failures of the
request travel with HTTP status 200; system failures with 503.
-/

namespace ControlPlane

namespace Envelope

def ofError (e : Error) : Json :=
  .obj [("ok", .bool false), ("error", .obj [("code", .str e.code), ("message", .str e.message)])]

def ofResult (result : Json) : Json :=
  .obj [("ok", .bool true), ("result", result)]

def respond (r : Except Error Json) : Nat × Json :=
  match r with
  | .ok v => (200, ofResult v)
  | .error e => (e.httpStatus, ofError e)

end Envelope

end ControlPlane
