/-
SecureMonitor/Call/Refusal.lean

Why a call is refused.  Every refusal has a cause, a text for the journal,
and a return code.  The code is a negative 32-bit number; the caller finds
it in x0, with its sign extended to the whole register.
-/
import SecureMonitor.Hex

namespace SecureMonitor

/-! ### Return codes -/

/-- The outcomes that the calling convention has numbers for. -/
inductive ReturnCode
  | success
  | notSupported
  | notRequired
  | invalidParameter
  | busy
  | denied
deriving DecidableEq, Repr

namespace ReturnCode

def all : List ReturnCode :=
  [success, notSupported, notRequired, invalidParameter, busy, denied]

def number : ReturnCode → Int32
  | success => 0
  | notSupported => -1
  | notRequired => -2
  | invalidParameter => -3
  | busy => -4
  | denied => -5

/-- The code as a register holds it: the sign fills the upper half. -/
def value (c : ReturnCode) : UInt64 := c.number.toInt64.toUInt64

end ReturnCode

/-! ### Causes -/

/-- What is wrong with a call's identifier or arguments. -/
inductive Malformation
  /-- The upper half of the identifier is not zero. -/
  | upperBitsSet
  /-- Bits of the identifier that must be zero are not. -/
  | reservedBitsSet
  /-- The service has no function of this number. -/
  | unknownFunction (number : UInt16)
  /-- A 64-bit call came from 32-bit code. -/
  | widthMismatch
  /-- The function exists for the other type of call only. -/
  | callTypeMismatch
  /-- An argument is outside the function's domain. -/
  | invalidArgument
deriving DecidableEq, Repr

def Malformation.text : Malformation → String
  | upperBitsSet => "UpperBitsSet"
  | reservedBitsSet => "ReservedBitsSet"
  | unknownFunction n => s!"UnknownFunction \x7b number: {n.toNat} \x7d"
  | widthMismatch => "WidthMismatch"
  | callTypeMismatch => "CallTypeMismatch"
  | invalidArgument => "InvalidArgument"

/-- Why a well-formed call cannot be served now. -/
inductive Denial
  /-- The power state does not allow the transition. -/
  | lifecycleState
  /-- There is no preempted call to abort. -/
  | noPreemptedCall
  /-- The monitor has no say over the world. -/
  | worldSwitchUnavailable
  /-- No caller waits for its applet. -/
  | noParkedContext
  /-- The applet slot is empty. -/
  | appletNotRegistered
  /-- The caller is in the wrong world for this call. -/
  | callerWorld
deriving DecidableEq, Repr

def Denial.text : Denial → String
  | lifecycleState => "LifecycleState"
  | noPreemptedCall => "NoPreemptedCall"
  | worldSwitchUnavailable => "WorldSwitchUnavailable"
  | noParkedContext => "NoParkedContext"
  | appletNotRegistered => "AppletNotRegistered"
  | callerWorld => "CallerWorld"

/-- Why a call is refused. -/
inductive Refusal
  /-- No hosted service has this owning entity number. -/
  | unrecognizedEntity (owner : Nat)
  | malformed (why : Malformation)
  /-- The core is in the middle of something. -/
  | busy
  | denied (why : Denial)
deriving DecidableEq, Repr

namespace Refusal

def returnCode : Refusal → ReturnCode
  | unrecognizedEntity _ => .notSupported
  | malformed _ => .invalidParameter
  | busy => .busy
  | denied _ => .denied

/-- What the caller finds in x0. -/
def value (r : Refusal) : UInt64 := r.returnCode.value

def message : Refusal → String
  | unrecognizedEntity owner => s!"no secure entity owns OEN {Hex.text owner}"
  | malformed why => s!"malformed call: {why.text}"
  | busy => "monitor busy"
  | denied why => s!"denied: {why.text}"

/-- No call is refused with a success in x0. -/
theorem returnCode_ne_success (r : Refusal) : r.returnCode ≠ .success := by
  cases r <;> simp [returnCode]

end Refusal

end SecureMonitor
