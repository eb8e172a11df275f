/-
SecureMonitor/Machine/Deliver.lean

Delivering traps to the cores of a machine, also traps that come in while
other traps are being handled.

A core that is at a trap is held until the trap is done.  A trap for a held
core is turned away, as its state is out of reach; a trap for any other
core is handled as ever.  A chain of interruptions is delivered from the
inside out: the outer trap goes to its checkpoint, the chain behind it is
delivered to the end, and the outer trap goes on.
-/
import SecureMonitor.Machine

namespace SecureMonitor

variable {γ : Type}

/-- A trap on its way to a core. -/
structure Arrival (γ : Type) where
  core : Nat
  vector : TrapVector
  frame : Frame
  controller : γ

/-- A trap that comes in when another one is at a checkpoint. -/
structure Interruption (γ : Type) where
  checkpoint : Checkpoint
  arrival : Arrival γ

/-- What came of a trap, and of the trap that interrupted it, if one did. -/
structure Delivery (γ : Type) where
  machine : Machine
  response : Response γ
  interruption : Option (Response γ) := none

namespace Machine

variable [InterruptController γ]

/-- Deliver a trap that nothing interrupts, while some cores are held. -/
def handleHeld (m : Machine) (held : List Nat) (a : Arrival γ) : Machine × Response γ :=
  match m.coreAt a.core with
  | .error fault => (m, .fatal fault a.frame a.controller)
  | .ok core =>
    if held.contains a.core then (m, turnAway a.vector a.frame a.controller)
    else
      let step := core.handle a.vector a.frame a.controller
      (m.setCore a.core step.core, step.toResponse)

/-- Deliver a trap that nothing interrupts. -/
def handle (m : Machine) (a : Arrival γ) : Machine × Response γ := m.handleHeld [] a

/-- The trap on its core when it comes to a checkpoint. -/
def reach? (m : Machine) (held : List Nat) (a : Arrival γ) (target : Checkpoint) :
    Option InFlight :=
  match m.coreAt a.core with
  | .error _ => none
  | .ok core =>
    if held.contains a.core then none else core.reach? a.vector a.frame target

/-- Deliver a trap and the chain of traps that interrupt it, each the one
before it.  An interruption whose checkpoint is not reached does not happen,
nor do those behind it. -/
def deliverHeld (m : Machine) (held : List Nat) (a : Arrival γ) :
    List (Interruption γ) → Delivery γ
  | [] =>
    let (m, response) := m.handleHeld held a
    { machine := m, response := response }
  | next :: chain =>
    match m.reach? held a next.checkpoint with
    | none =>
      let (m, response) := m.handleHeld held a
      { machine := m, response := response }
    | some inFlight =>
      -- the core stays held while the chain behind is delivered
      let inner := m.deliverHeld (a.core :: held) next.arrival chain
      let step := (inFlight.tell inner.response.log).finish a.controller
      { machine := inner.machine.setCore a.core step.core
        response := step.toResponse
        interruption := some inner.response }

/-- Deliver a trap with its interruptions to a machine that is at no other. -/
def deliver (m : Machine) (a : Arrival γ) (chain : List (Interruption γ)) : Delivery γ :=
  m.deliverHeld [] a chain

/-- A trap that finds no core changes nothing. -/
theorem handle_of_coreAt_error {m : Machine} {a : Arrival γ} {fault : Fault}
    (h : m.coreAt a.core = .error fault) :
    m.handle a = (m, .fatal fault a.frame a.controller) := by
  simp [handle, handleHeld, h]

/-- A trap is its own core's business. -/
theorem handle_of_coreAt_ok {m : Machine} {a : Arrival γ} {core : Core}
    (h : m.coreAt a.core = .ok core) :
    m.handle a =
      (m.setCore a.core (core.handle a.vector a.frame a.controller).core,
        (core.handle a.vector a.frame a.controller).toResponse) := by
  simp [handle, handleHeld, h]

end Machine

end SecureMonitor
