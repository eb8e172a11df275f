/-
SecureMonitor/Interrupt/Accounted.lean

An interrupt controller that keeps account: every answer to an acknowledge
and every interrupt completed, oldest first.  It is otherwise the device
that it stands before.
-/
import SecureMonitor.Interrupt.Controller

namespace SecureMonitor

/-- A device together with the account of what was asked of it. -/
structure Accounted (γ : Type) where
  device : γ
  /-- The answers to acknowledges, `none` for a spurious one. -/
  acknowledged : List (Option UInt32) := []
  completed : List UInt32 := []
deriving DecidableEq, Repr

namespace Accounted

variable {γ : Type} [InterruptController γ]

instance : InterruptController (Accounted γ) where
  acknowledge a :=
    let (answer, device) := InterruptController.acknowledge a.device
    (answer, { a with device := device, acknowledged := a.acknowledged ++ [answer] })
  complete a interrupt :=
    { a with
      device := InterruptController.complete a.device interrupt
      completed := a.completed ++ [interrupt] }

/-- Interrupts acknowledged, without the spurious answers. -/
def interrupts (a : Accounted γ) : List UInt32 := a.acknowledged.filterMap id

theorem acknowledged_acknowledge (a : Accounted γ) :
    (InterruptController.acknowledge a).2.acknowledged =
      a.acknowledged ++ [(InterruptController.acknowledge a).1] := rfl

theorem completed_acknowledge (a : Accounted γ) :
    (InterruptController.acknowledge a).2.completed = a.completed := rfl

theorem completed_complete (a : Accounted γ) (interrupt : UInt32) :
    (InterruptController.complete a interrupt).completed = a.completed ++ [interrupt] := rfl

end Accounted

end SecureMonitor
