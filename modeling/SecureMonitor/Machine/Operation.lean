/-
SecureMonitor/Machine/Operation.lean

What can be done with a machine from outside — set the monitor up, register
an applet, hand a trap to a core — as data, so that one can speak of any
sequence of such operations.
-/
import SecureMonitor.Machine.Deliver

namespace SecureMonitor

/-- An operation on a machine. -/
inductive Operation (γ : Type)
  | boot (level : Level)
  | register (applet : Applet)
  | trap (arrival : Arrival γ)

namespace Machine

variable {γ : Type} [InterruptController γ]

/-- Do one operation. -/
def apply (m : Machine) : Operation γ → Machine
  | .boot level => boot level
  | .register x => (m.register x).2
  | .trap a => (m.handle a).1

/-- Do operations one after another. -/
def applyAll (m : Machine) (operations : List (Operation γ)) : Machine :=
  operations.foldl apply m

@[simp] theorem applyAll_nil (m : Machine) : m.applyAll ([] : List (Operation γ)) = m := rfl

@[simp] theorem applyAll_cons (m : Machine) (operation : Operation γ)
    (rest : List (Operation γ)) :
    m.applyAll (operation :: rest) = (m.apply operation).applyAll rest := rfl

theorem applyAll_append (m : Machine) (xs ys : List (Operation γ)) :
    m.applyAll (xs ++ ys) = (m.applyAll xs).applyAll ys :=
  List.foldl_append

/-- Setting the monitor up forgets what was before. -/
theorem apply_boot (m : Machine) (level : Level) :
    m.apply (.boot level : Operation γ) = boot level := rfl

end Machine

end SecureMonitor
