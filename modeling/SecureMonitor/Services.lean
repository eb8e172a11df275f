/-
SecureMonitor/Services.lean

The services of one core side by side.  A call reaches the one service it
is for.  Whatever the answer, the service has a state after it, and the core
goes on with that (`serve`).
-/
import SecureMonitor.Call.Function

namespace SecureMonitor

/-- The state of all services on one core. -/
@[ext]
structure Services where
  tsp : Tsp := {}
  optee : OpTee := {}
  applets : Applets := {}
deriving DecidableEq, Repr

namespace Services

/-- Serve a call.  The answer comes with what the services are after it, be it a reply or
a refusal. -/
def serve (s : Services) (call : Call) (request : Request) : Except Refusal Reply × Services :=
  match call with
  | .tsp f =>
    let (answer, tsp) := s.tsp.handle f request
    (answer, { s with tsp := tsp })
  | .optee f =>
    let (answer, optee) := s.optee.handle f request
    (answer, { s with optee := optee })
  | .custom f => (s.applets.handle f request, s)

/-- The reply to a call together with the services after it, or why it is refused. -/
def handle (s : Services) (call : Call) (request : Request) :
    Except Refusal (Reply × Services) :=
  let (answer, services) := s.serve call request
  answer.map fun reply => (reply, services)

/-- What the addressed service tells the journal about a call. -/
def notices (s : Services) (call : Call) (request : Request) : List Notice :=
  match call with
  | .tsp f => s.tsp.notices f
  | .optee f => OpTee.notices f request
  | .custom _ => []

end Services

end SecureMonitor
