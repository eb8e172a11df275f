/-
SecureMonitor/Call/Reply.lean

What passes between the monitor and a service.  A request is an identified
call with its arguments and the caller's world; a reply is an event, three
results, and where the core goes on.
-/
import SecureMonitor.Frame
import SecureMonitor.Call.Identifier
import SecureMonitor.Call.Event

namespace SecureMonitor

/-- A call as its service sees it. -/
structure Request where
  id : CallId
  operands : Operands
  /-- The caller's world, where the monitor can tell. -/
  caller : Option World
deriving DecidableEq, Repr

/-- Where the core goes on after a call. -/
inductive Resume
  /-- After the call. -/
  | caller
  /-- At another address, in the caller's world. -/
  | jump (entry : UInt64)
  /-- In another world, on a frame of its own, while the caller is parked. -/
  | enter (world : World) (entry stack : UInt64)
  /-- In the context that is parked; the current one is dropped. -/
  | restore
deriving DecidableEq, Repr

/-- A service's answer to a call. -/
structure Reply where
  event : Event
  results : Operands := {}
  resume : Resume := .caller
deriving DecidableEq, Repr

end SecureMonitor
