/-
What the two halves of a WASI 0.2 tunnel share (`tls-virt-wasmtime/src/p2.rs`): the
hop size, the state of a direction, and the error a `wasi:io` stream call reports
from it.
-/
import Mathlib.Data.List.Basic

set_option autoImplicit false

namespace PolymorphTls

/-- Read hop size of the tunnel's receive direction, and the send budget. -/
def CHUNK : ℕ := 16 * 1024

/-- The state of one direction of a 0.2 stream. -/
inductive StreamState where
  | Open
  /-- Clean end: close_notify in the receive direction, shutdown complete in the
  send direction. -/
  | Closed
  | Failed (message : String)
  deriving DecidableEq, Repr

/-- `wasmtime_wasi::p2::StreamError`. -/
inductive StreamError where
  | Closed
  | LastOperationFailed (message : String)
  | Trap (message : String)
  deriving DecidableEq, Repr

/-- `StreamState::check`. -/
def StreamState.check : StreamState → Except StreamError Unit
  | .Open => .ok ()
  | .Closed => .error .Closed
  | .Failed message => .error (.LastOperationFailed message)

end PolymorphTls
