/-
SecureMonitor/Trap/Syndrome.lean

The syndrome register that comes with a trap: a six-bit exception class
(bits 31:26), the length of the trapped instruction (bit 25) and details
that depend on the class (bits 24:0).  The monitor acts on the two classes
of a secure monitor call and only names the others.
-/
import SecureMonitor.Bits

namespace SecureMonitor.Syndrome

/-! ### Fields -/

/-- The exception class of a syndrome. -/
def exceptionClass (esr : UInt64) : Nat := field esr 26 6

/-- The trapped instruction was 32 bits long. -/
def isLongInstruction (esr : UInt64) : Bool := bit esr 25

/-- The details that belong to the exception class. -/
def details (esr : UInt64) : Nat := field esr 0 25

/-! ### Exception classes -/

/-- A secure monitor call from 32-bit code. -/
def callAArch32 : Nat := 0x13

/-- A secure monitor call from 64-bit code. -/
def callAArch64 : Nat := 0x17

/-- The class is that of a secure monitor call. -/
def isCall (n : Nat) : Bool := n == callAArch64 || n == callAArch32

/-- What the monitor calls a class when it reports a trap. -/
def className : Nat → String
  | 0x00 => "unknown"
  | 0x13 => "SMC (AArch32)"
  | 0x15 => "SVC"
  | 0x16 => "HVC"
  | 0x17 => "SMC"
  | 0x18 => "system register trap"
  | 0x20 => "instruction abort"
  | 0x21 => "instruction abort"
  | 0x24 => "data abort"
  | 0x25 => "data abort"
  | 0x2f => "SError"
  | 0x3c => "BRK"
  | _ => "other"

theorem isCall_iff {n : Nat} : isCall n = true ↔ n = callAArch64 ∨ n = callAArch32 := by
  simp [isCall]

end SecureMonitor.Syndrome
