/-
What the language server talks through, and how serving may end.
-/
import OpenApi.Failure

set_option autoImplicit false

namespace OpenApi

/-- What the server talks through. -/
inductive Transport where
  | stdio
  | tcp (host : String) (port : Int)
deriving DecidableEq, Repr

/-- How serving ended. -/
inductive TransportEnd where
  | finished
  | interrupted
  | disconnected
  | systemError (message : String)
  | accident (a : Accident)
deriving DecidableEq, Repr

/-- What comes of serving: an interruption and a client that went away are no failures. -/
def TransportEnd.result : TransportEnd → Except Trouble Unit
  | .finished => .ok ()
  | .interrupted => .ok ()
  | .disconnected => .ok ()
  | .systemError message =>
    .error (.failure
      { kind := .server, message := s!"Language server transport failed: {message}" })
  | .accident a => .error (.accident a)

end OpenApi
