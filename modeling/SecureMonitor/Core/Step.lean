/-
SecureMonitor/Core/Step.lean

What comes out of a trap, and how a core that is busy turns one away.

A trap either is fatal or has an outcome: a call that completed, a call
that was refused, or an interrupt that was handed on.  A busy core nests
nothing.  It serves interrupts, answers calls as refused — in the frame of
that call, since the one before it is still being worked on — and finds
everything else fatal.  None of this reads or writes the core's state, so
it also serves where that state is out of reach.

That path finds out by itself what a trap is.  Its tests stand beside those
of an idle core (`TrapVector.disposition`), and the two come to the same on
every vector and every syndrome (`turnAway_eq`).
-/
import SecureMonitor.Core
import SecureMonitor.Interrupt.Controller

namespace SecureMonitor

open InterruptController

variable {γ : Type}

/-- How a trap ended that can be returned from. -/
inductive Outcome
  | completed (event : Event)
  | refused (why : Refusal)
  | forwarded (kind : TrapKind)
deriving DecidableEq, Repr

/-- What the trapped context, the interrupt controller and the journal see of
a trap. -/
structure Response (γ : Type) where
  result : Except Fault Outcome
  frame : Frame
  controller : γ
  log : List Notice := []

/-- A response together with the core that gave it. -/
structure Step (γ : Type) extends Response γ where
  core : Core

/-- The response of a trap that touches nothing. -/
def Response.fatal (fault : Fault) (f : Frame) (controller : γ) : Response γ :=
  ⟨.error fault, f, controller, []⟩

/-! ### Turning a trap away -/

variable [InterruptController γ]

/-- Answer a trap that came while its core was busy. -/
def turnAway (v : TrapVector) (f : Frame) (controller : γ) : Response γ :=
  if !v.recoverable then .fatal (.unrecoverableVector v) f controller
  else match v.kind with
    | .synchronous =>
      let ec := f.exceptionClass
      if v.origin.isLower && Syndrome.isCall ec then
        { result := .ok (.refused .busy)
          frame := f.writeReturn Refusal.busy.value {}
          controller := controller
          log := [.nestedCall f.callId] }
      else .fatal (.unexpectedSync v ec) f controller
    | kind =>
      let (controller, log) := serve v controller
      { result := .ok (.forwarded kind), frame := f, controller := controller, log := log }

/-- Its tests come to the same as those of an idle core. -/
theorem turnAway_eq (v : TrapVector) (f : Frame) (controller : γ) :
    turnAway v f controller =
      match v.disposition f.esr with
      | .fatal fault => .fatal fault f controller
      | .call =>
        { result := .ok (.refused .busy), frame := f.writeReturn Refusal.busy.value {},
          controller := controller, log := [.nestedCall f.callId] }
      | .forward =>
        { result := .ok (.forwarded v.kind), frame := f, controller := (serve v controller).1,
          log := (serve v controller).2 } := by
  simp only [turnAway, TrapVector.disposition, Frame.exceptionClass]
  -- either asks for the vector first, for its kind next, and for the class of a
  -- synchronous trap last
  cases v.recoverable with
  | false => rfl
  | true =>
    cases v.kind with
    | synchronous =>
      by_cases hcall :
          (v.origin.isLower && Syndrome.isCall (Syndrome.exceptionClass f.esr)) = true
      · simp only [hcall, Bool.not_true, Bool.false_eq_true, if_true, if_false]
      · simp only [hcall, Bool.not_true, Bool.false_eq_true, if_false]
    | irq | fiq | serror => rfl

section

variable {v : TrapVector} {f : Frame}

theorem turnAway_of_fatal {fault : Fault} (found : v.disposition f.esr = .fatal fault)
    (controller : γ) : turnAway v f controller = .fatal fault f controller := by
  rw [turnAway_eq, found]

theorem turnAway_of_forward (found : v.disposition f.esr = .forward) (controller : γ) :
    turnAway v f controller =
      { result := .ok (.forwarded v.kind), frame := f, controller := (serve v controller).1,
        log := (serve v controller).2 } := by
  rw [turnAway_eq, found]

theorem turnAway_of_call (found : v.disposition f.esr = .call) (controller : γ) :
    turnAway v f controller =
      { result := .ok (.refused .busy), frame := f.writeReturn Refusal.busy.value {},
        controller := controller, log := [.nestedCall f.callId] } := by
  rw [turnAway_eq, found]

end

/-- A busy core turns a trap away; a fatal one stops it. -/
def Core.turnAway (core : Core) (v : TrapVector) (f : Frame) (controller : γ) : Step γ :=
  let response := SecureMonitor.turnAway v f controller
  match response.result with
  | .ok _ => { response with core := core }
  | .error fault =>
    { response with
      log := response.log ++ [.halting fault]
      core := { core with phase := .halted } }

end SecureMonitor
