/-
SecureMonitor/Interrupt/Queue.lean

An interrupt controller that is a queue.  An entry is an interrupt or a
spurious request; an empty queue answers like a spurious one.
-/
import SecureMonitor.Interrupt.Controller

namespace SecureMonitor

/-- Interrupts in the order in which they will be given out. -/
structure InterruptQueue where
  pending : List (Option UInt32) := []
deriving DecidableEq, Repr

namespace InterruptQueue

/-- Add requests behind those that wait already. -/
def append (q : InterruptQueue) (requests : List (Option UInt32)) : InterruptQueue :=
  ⟨q.pending ++ requests⟩

instance : InterruptController InterruptQueue where
  acknowledge
    | ⟨[]⟩ => (none, ⟨[]⟩)
    | ⟨first :: rest⟩ => (first, ⟨rest⟩)
  complete q _ := q

end InterruptQueue

end SecureMonitor
