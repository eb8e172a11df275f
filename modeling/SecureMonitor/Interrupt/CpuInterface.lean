/-
SecureMonitor/Interrupt/CpuInterface.lean

The CPU interface of the board's interrupt controller: 32-bit registers in
device memory, from a base address on, of which the monitor uses two.

    base + 0x0c   acknowledge: an identifier in the low ten bits
    base + 0x10   completion: takes the identifier that is done with

Identifiers past 1019 stand for no interrupt.
-/
import SecureMonitor.Platform
import SecureMonitor.Interrupt.Controller

namespace SecureMonitor

/-- A CPU interface and the memory that its registers are in. -/
structure CpuInterface where
  /-- Address of the first register. -/
  base : Nat := cpuInterfaceBase
  /-- The 32-bit words of device memory, by address. -/
  memory : Nat → UInt32 := fun _ => 0

namespace CpuInterface

/-- Byte offset of the acknowledge register. -/
def acknowledgeOffset : Nat := 0x0c

/-- Byte offset of the completion register. -/
def completeOffset : Nat := 0x10

/-- The last identifier that is an interrupt. -/
def lastInterrupt : UInt32 := 1019

/-- Read the register at an offset. -/
def read (c : CpuInterface) (offset : Nat) : UInt32 := c.memory (c.base + offset)

/-- Write the register at an offset. -/
def write (c : CpuInterface) (offset : Nat) (value : UInt32) : CpuInterface :=
  { c with memory := fun address => if address = c.base + offset then value else c.memory address }

theorem memory_write_of_ne (c : CpuInterface) {offset address : Nat} (value : UInt32)
    (h : address ≠ c.base + offset) : (c.write offset value).memory address = c.memory address :=
  if_neg h

theorem read_write (c : CpuInterface) (offset other : Nat) (value : UInt32) :
    (c.write offset value).read other = if other = offset then value else c.read other := by
  simp only [read, write, Nat.add_left_cancel_iff]

/-- The first eight registers. -/
def words (c : CpuInterface) : Vector UInt32 8 := Vector.ofFn fun i => c.read (4 * i)

/-- What the distributor does when it offers an interrupt: it fills the
acknowledge register. -/
def offer (c : CpuInterface) (value : UInt32) : CpuInterface := c.write acknowledgeOffset value

/-- The interrupt that the acknowledge register names. -/
def offered (c : CpuInterface) : Option UInt32 :=
  let id := c.read acknowledgeOffset % 1024
  if id ≤ lastInterrupt then some id else none

instance : InterruptController CpuInterface where
  acknowledge c := (c.offered, c)
  complete c interrupt := c.write completeOffset interrupt

/-! ### What the registers hold -/

/-- An interface names the interrupt that it was last offered. -/
theorem offered_offer (c : CpuInterface) (value : UInt32) :
    (c.offer value).offered =
      if value % 1024 ≤ lastInterrupt then some (value % 1024) else none := by
  simp only [offered, offer, read_write, if_true]

/-- Completing an interrupt takes no offer back. -/
theorem offered_complete (c : CpuInterface) (interrupt : UInt32) :
    (InterruptController.complete c interrupt).offered = c.offered := by
  have hother : ¬ acknowledgeOffset = completeOffset := by decide
  simp only [offered, InterruptController.complete, read_write, if_neg hother]

/-- Completing an interrupt writes the completion register and no other. -/
theorem words_complete (c : CpuInterface) (interrupt : UInt32) :
    (InterruptController.complete c interrupt).words =
      c.words.set (completeOffset / 4) interrupt := by
  ext i hi
  have hslot : 4 * i = completeOffset ↔ completeOffset / 4 = i := by
    simp only [completeOffset]
    omega
  simp only [words, InterruptController.complete, Vector.getElem_ofFn, Vector.getElem_set,
    read_write, hslot]

/-- The serial line is out of reach of the board's interface. -/
theorem memory_complete_of_serial (memory : Nat → UInt32) {address : Nat}
    (h : serialBase ≤ address) (interrupt : UInt32) :
    (InterruptController.complete ({ memory := memory } : CpuInterface) interrupt).memory address =
      memory address := by
  refine memory_write_of_ne _ interrupt ?_
  simp only [serialBase, cpuInterfaceBase, completeOffset] at h ⊢
  omega

end CpuInterface

end SecureMonitor
