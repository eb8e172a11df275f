/-
SecureMonitor/Frame.lean

The saved frame of a trapped context.  Whatever the monitor leaves in the
frame is where the core goes on, so answering a call is writing registers
of the frame, and switching worlds is replacing it.

* `writeReturn` writes x0 and three results and nothing else;
* `entering` is a fresh frame that starts at EL1 on a stack of its own and
  keeps of the old frame only the secure configuration, world apart.
-/
import SecureMonitor.Frame.SavedState
import SecureMonitor.Frame.SecureConfig
import SecureMonitor.Trap.Syndrome

namespace SecureMonitor

/-- General registers of a frame, x0 to x30. -/
abbrev registerCount : Nat := 31

/-- The registers x1, x2 and x3: a call's arguments on the way in, its
results on the way out. -/
structure Operands where
  x1 : UInt64 := 0
  x2 : UInt64 := 0
  x3 : UInt64 := 0
deriving DecidableEq, Repr

/-- The saved state of a trapped context. -/
@[ext]
structure Frame where
  /-- The address at which the context goes on. -/
  elr : UInt64 := 0
  /-- Its processor state. -/
  spsr : UInt64 := 0
  /-- The secure configuration at the trap, zero for a monitor at EL1. -/
  scr : UInt64 := 0
  /-- The syndrome of the trap. -/
  esr : UInt64 := 0
  regs : Vector UInt64 registerCount := Vector.replicate registerCount 0
  /-- The stack pointer of EL0. -/
  spLower : UInt64 := 0
  /-- The stack pointer of EL1.  Both worlds share that register, so it
  travels with the frame. -/
  spEl1 : UInt64 := 0
deriving DecidableEq, Repr

namespace Frame

/-- The frame of all zeros. -/
def zero : Frame := {}

/-! ### Registers -/

/-- Register x`n`; there are none beyond x30, and those read as zero. -/
def arg (f : Frame) (n : Nat) : UInt64 := f.regs[n]?.getD 0

/-- The identifier of the call that trapped. -/
def callId (f : Frame) : UInt64 := f.arg 0

/-- The arguments of the call that trapped. -/
def operands (f : Frame) : Operands := ⟨f.arg 1, f.arg 2, f.arg 3⟩

/-- Write the answer to a call: x0 and the three results. -/
def writeReturn (f : Frame) (x0 : UInt64) (results : Operands) : Frame :=
  { f with
    regs := (((f.regs.set 0 x0).set 1 results.x1).set 2 results.x2).set 3 results.x3 }

theorem arg_eq_getElem (f : Frame) {n : Nat} (h : n < registerCount) : f.arg n = f.regs[n] := by
  simp [arg, h]

@[simp] theorem arg_writeReturn_zero (f : Frame) (x0 : UInt64) (r : Operands) :
    (f.writeReturn x0 r).arg 0 = x0 := by
  simp [arg, writeReturn]

@[simp] theorem operands_writeReturn (f : Frame) (x0 : UInt64) (r : Operands) :
    (f.writeReturn x0 r).operands = r := by
  simp [operands, arg, writeReturn]

/-- An answer leaves x4 to x30 alone. -/
theorem arg_writeReturn_of_ge (f : Frame) (x0 : UInt64) (r : Operands) {n : Nat} (h : 4 ≤ n) :
    (f.writeReturn x0 r).arg n = f.arg n := by
  -- register n is none of the four that are written
  have h0 : 0 ≠ n := by omega
  have h1 : 1 ≠ n := by omega
  have h2 : 2 ≠ n := by omega
  have h3 : 3 ≠ n := by omega
  simp [arg, writeReturn, h0, h1, h2, h3]

/-! ### Context -/

/-- The exception class of the trap. -/
def exceptionClass (f : Frame) : Nat := Syndrome.exceptionClass f.esr

/-- The level the context ran at. -/
def privilege (f : Frame) : Privilege := SavedState.privilege f.spsr

/-- The stack pointer that the context uses. -/
def stackPointer (f : Frame) : UInt64 :=
  if SavedState.returnsToEl1h f.spsr then f.spEl1 else f.spLower

def setStackPointer (f : Frame) (address : UInt64) : Frame :=
  if SavedState.returnsToEl1h f.spsr then { f with spEl1 := address }
  else { f with spLower := address }

@[simp] theorem stackPointer_setStackPointer (f : Frame) (address : UInt64) :
    (f.setStackPointer address).stackPointer = address := by
  unfold setStackPointer stackPointer
  split <;> simp_all

/-! ### Worlds -/

/-- The world that the context runs in, where the monitor's level can tell. -/
def world (f : Frame) (level : Level) : Option World :=
  if level.canSwitchWorlds then some (SecureConfig.world f.scr) else none

def setWorld (f : Frame) (w : World) : Frame :=
  { f with scr := SecureConfig.withWorld w f.scr }

/-- A fresh frame that starts at `entry` in world `w`, at EL1 on `stack` with
all exceptions masked.  It keeps the secure configuration of `f` but for the
world. -/
def entering (f : Frame) (w : World) (entry stack : UInt64) : Frame :=
  { elr := entry
    spsr := SavedState.el1hMasked
    scr := SecureConfig.withWorld w f.scr
    spEl1 := stack }

end Frame

end SecureMonitor
