/-
SecureMonitor/Frame/SavedState.lean

The saved processor state (SPSR) of a trapped context: mode (bits 3:0),
32-bit execution (bit 4) and the four exception masks (bits 9:6).  The mode
tells the exception level and, for 64-bit code at EL1, which stack pointer
is in use.
-/
import SecureMonitor.Bits

namespace SecureMonitor

/-! ### Privilege -/

/-- The exception level of a saved context. -/
inductive Privilege
  | el0
  | el1
  | el2
  | el3
deriving DecidableEq, Repr

namespace Privilege

def number : Privilege → Nat
  | el0 => 0
  | el1 => 1
  | el2 => 2
  | el3 => 3

def name (p : Privilege) : String := s!"EL{p.number}"

/-- The unprivileged level. -/
def user : Privilege := el0

def isUser (p : Privilege) : Bool := p == user

end Privilege

namespace SavedState

/-! ### Fields -/

/-- The mode: exception level and stack selector, or the 32-bit mode. -/
def mode (spsr : UInt64) : Nat := field spsr 0 4

/-- The context ran 32-bit code. -/
def isAArch32 (spsr : UInt64) : Bool := bit spsr 4

def masksFiq (spsr : UInt64) : Bool := bit spsr 6
def masksIrq (spsr : UInt64) : Bool := bit spsr 7
def masksSError (spsr : UInt64) : Bool := bit spsr 8
def masksDebug (spsr : UInt64) : Bool := bit spsr 9

/-- The mode of EL1 on its own stack. -/
def modeEl1h : Nat := 0b0101

/-- The state of a context that starts at EL1 on its own stack with all exceptions masked. -/
def el1hMasked : UInt64 :=
  UInt64.ofNat (modeEl1h + 0x40 + 0x80 + 0x100 + 0x200)

/-! ### What a state returns to -/

/-- The context is 64-bit code at EL1 on the stack of EL1. -/
def returnsToEl1h (spsr : UInt64) : Bool :=
  !isAArch32 spsr && mode spsr == modeEl1h

/-- The level the context ran at.  A 32-bit context traps from EL0 or EL1
only, so every 32-bit mode but the user's counts as EL1. -/
def privilege (spsr : UInt64) : Privilege :=
  if isAArch32 spsr then
    if mode spsr = 0 then .el0 else .el1
  else match mode spsr / 4 with
    | 0 => .el0
    | 1 => .el1
    | 2 => .el2
    | _ => .el3

theorem privilege_of_returnsToEl1h {spsr : UInt64} (h : returnsToEl1h spsr = true) :
    privilege spsr = .el1 := by
  simp only [returnsToEl1h, Bool.and_eq_true, Bool.not_eq_true', beq_iff_eq] at h
  simp [privilege, h.1, h.2, modeEl1h]

end SavedState

end SecureMonitor
