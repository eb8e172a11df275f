/-
SecureMonitor/Journal/Notice.lean

What the monitor has to say about its work.  Every notice is a cause with
its data; how grave it is, who writes it, and in which words, is settled
here and nowhere else (`Notice.record`).
-/
import SecureMonitor.Platform
import SecureMonitor.Trap.Fault
import SecureMonitor.Call.Identifier
import SecureMonitor.Service.Power
import SecureMonitor.Journal.Record

namespace SecureMonitor

/-- Something that the monitor tells its journal. -/
inductive Notice
  /-- A trap is about to be looked at. -/
  | taken (vector : TrapVector) (elr : UInt64)
  /-- The core stops for good. -/
  | halting (fault : Fault)
  | acknowledged (vector : TrapVector) (interrupt : UInt32)
  /-- There was no interrupt to acknowledge. -/
  | spurious (vector : TrapVector)
  /-- A system error is handed on. -/
  | forwarding (vector : TrapVector)
  /-- A call goes to its service. -/
  | routed (id : CallId)
  | refused (raw : UInt64) (why : Refusal)
  /-- A call came in while the core was busy. -/
  | nestedCall (raw : UInt64)
  | entering (world : World) (entry : UInt64)
  | restored (elr : UInt64)
  /-- A service asked for a world switch that the monitor cannot make. -/
  | noWorldSwitch (level : Level)
  /-- A power function met the wrong power state. -/
  | powerMismatch (actual needed : Power)
  /-- The other world wants the text at an address logged. -/
  | logRequest (buffer : UInt64)
  /-- A message argument was taken at an address in two halves. -/
  | messageTaken (high low : UInt64)
  | ready (level : Level)
  | hosting (service : Service)
  | appletRegistered (number : Nat) (entry : UInt64)
deriving DecidableEq, Repr

namespace Notice

def severity : Notice → Severity
  | halting _ | noWorldSwitch _ => .error
  | refused .. | nestedCall _ => .warn
  | logRequest _ | ready _ | hosting _ | appletRegistered .. => .info
  | acknowledged .. | forwarding _ | routed _ | entering .. | restored _
  | powerMismatch .. | messageTaken .. => .debug
  | taken .. | spurious _ => .trace

def target : Notice → String
  | powerMismatch .. => "monitor::payload::tsp"
  | logRequest _ | messageTaken .. => "optee"
  | ready _ | hosting _ | appletRegistered .. => "monitor::per_cpu"
  | taken .. | halting _ | acknowledged .. | spurious _ | forwarding _ | routed _
  | refused .. | nestedCall _ | entering .. | restored _ | noWorldSwitch _ =>
    "monitor::dispatcher"

def message : Notice → String
  | taken v elr => s!"{v.text} elr={Hex.text elr.toNat}"
  | halting fault => s!"halting: {fault.message}"
  | acknowledged v interrupt => s!"{v.text}: interrupt {interrupt.toNat} acknowledged"
  | spurious v => s!"{v.text}: spurious"
  | forwarding v => s!"forwarding {v.text}"
  | routed id => s!"smc {id.description} -> {id.owner.name}"
  | refused raw why => s!"smc {Hex.text raw.toNat} rejected: {why.message}"
  | nestedCall raw => s!"nested smc {Hex.text raw.toNat} while busy"
  | entering world entry => s!"entering {world.name} world at {Hex.text entry.toNat}"
  | restored elr => s!"restored parked context, elr={Hex.text elr.toNat}"
  | noWorldSwitch level => s!"world switch requested but the monitor runs at {level.name}"
  | powerMismatch actual needed => s!"tsp: lifecycle {actual.name}, expected {needed.name}"
  | logRequest buffer => s!"log request, buffer {Hex.text buffer.toNat}"
  | messageTaken high low => s!"message arg at {Hex.text high.toNat}:{Hex.text low.toNat}"
  | ready level =>
    s!"monitor at {level.name} ready for {coreCount} cores, vectors via {level.registers.vbar}"
  | hosting service => s!"  OEN {Hex.padded 4 service.owner}: {service.name}"
  | appletRegistered number entry => s!"applet {number} at {Hex.text entry.toNat}"

/-- The notice as the journal holds it. -/
def record (n : Notice) : Record := ⟨n.severity, n.target, n.message⟩

end Notice

end SecureMonitor
