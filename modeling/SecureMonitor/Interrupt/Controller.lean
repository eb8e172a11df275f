/-
SecureMonitor/Interrupt/Controller.lean

What the monitor asks of an interrupt controller.  It owns no interrupt
itself: it acknowledges the one that brought it here and completes it at
once, so that the line is free again when the core goes on (`serve`).
-/
import SecureMonitor.Journal.Notice

namespace SecureMonitor

/-- A device with interrupts to acknowledge and to complete. -/
class InterruptController (γ : Type) where
  /-- Take the interrupt that is next, if the device has one to give. -/
  acknowledge : γ → Option UInt32 × γ
  /-- Tell the device that an interrupt is done with. -/
  complete : γ → UInt32 → γ

namespace InterruptController

variable {γ : Type} [InterruptController γ]

/-- Do for a trap what the controller needs: an interrupt is acknowledged and
completed, any other trap needs nothing. -/
def serve (v : TrapVector) (device : γ) : γ × List Notice :=
  if v.kind.isInterrupt then
    match acknowledge device with
    | (some interrupt, device) => (complete device interrupt, [.acknowledged v interrupt])
    | (none, device) => (device, [.spurious v])
  else (device, [.forwarding v])

theorem serve_of_not_interrupt {v : TrapVector} (h : v.kind.isInterrupt = false) (device : γ) :
    (serve v device).1 = device := by
  simp [serve, h]

theorem serve_of_acknowledge_some {v : TrapVector} {device device' : γ} {interrupt : UInt32}
    (h : v.kind.isInterrupt = true) (ha : acknowledge device = (some interrupt, device')) :
    (serve v device).1 = complete device' interrupt := by
  simp [serve, h, ha]

theorem serve_of_acknowledge_none {v : TrapVector} {device device' : γ}
    (h : v.kind.isInterrupt = true) (ha : acknowledge device = (none, device')) :
    (serve v device).1 = device' := by
  simp [serve, h, ha]

end InterruptController

end SecureMonitor
