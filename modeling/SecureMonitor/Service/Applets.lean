/-
SecureMonitor/Service/Applets.lean

Applets: routines that run in the secure world on a stack of their own.
They are registered one after another, and the number that a registration
gives (`register_eq_some_iff`) is the number of the function that runs the
applet.  Function 0 is the way back.

Applets are run from the other world and left from the secure one.  A
monitor that cannot tell the caller's world lets a call through that runs
an applet — it fails later, for want of a world to switch to — and refuses
to leave one.
-/
import SecureMonitor.Platform
import SecureMonitor.Call.Reply

namespace SecureMonitor

/-! ### Registered applets -/

/-- Where an applet starts, and on which stack. -/
structure Applet where
  entry : UInt64
  stack : UInt64
deriving DecidableEq, Repr

/-- The applets of one core, in the order of their registration. -/
@[ext]
structure Applets where
  registered : List Applet := []
  bounded : registered.length ≤ appletSlots := by decide
deriving DecidableEq, Repr

namespace Applets

/-- The applet in a slot. -/
def get? (a : Applets) (slot : Nat) : Option Applet := a.registered[slot]?

/-- Put an applet into the first free slot.  Its function number comes with
the applets; there is none, and nothing changes, when all slots are taken. -/
def register (a : Applets) (x : Applet) : Option Nat × Applets :=
  if h : a.registered.length < appletSlots then
    (some (a.registered.length + 1), ⟨a.registered ++ [x], by rw [List.length_append]; exact h⟩)
  else (none, a)

theorem get?_of_ge (a : Applets) {slot : Nat} (h : appletSlots ≤ slot) : a.get? slot = none :=
  List.getElem?_eq_none (Nat.le_trans a.bounded h)

theorem register_eq_some_iff {a : Applets} {x : Applet} {n : Nat} :
    (a.register x).1 = some n ↔
      a.registered.length < appletSlots ∧ n = a.registered.length + 1 := by
  unfold register
  split
  · simp [*, eq_comm]
  · simp [*]

end Applets

/-! ### Functions -/

inductive AppletFunction
  /-- Leave the applet and go back to its caller. -/
  | leave
  /-- Run the applet in a slot. -/
  | invoke (slot : Fin appletSlots)
deriving DecidableEq, Repr

def AppletFunction.ofNumber? : Nat → Option AppletFunction
  | 0 => some leave
  | n + 1 => if h : n < appletSlots then some (invoke ⟨n, h⟩) else none

/-! ### Serving a call -/

namespace Applets

/-- The reply to a call.  Serving a call changes no applet. -/
def handle (a : Applets) (f : AppletFunction) (request : Request) : Except Refusal Reply :=
  match f with
  | .leave =>
    match request.caller with
    | some .secure =>
      .ok { event := .customEntryDone
            results := { x1 := request.operands.x1 }
            resume := .restore }
    | some .nonSecure => .error (.denied .callerWorld)
    | none => .error (.denied .worldSwitchUnavailable)
  | .invoke slot =>
    if request.caller = some .secure then .error (.denied .callerWorld)
    else match a.get? slot with
      | none => .error (.denied .appletNotRegistered)
      | some x =>
        .ok { event := .customEntryDone
              results := request.operands
              resume := .enter .secure x.entry x.stack }

end Applets

end SecureMonitor
