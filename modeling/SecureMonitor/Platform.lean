/-
SecureMonitor/Platform.lean

The board: two clusters of four cores, the addresses of its devices, and
the number of applets a core can hold.  A core is found by its affinity
register: field `Aff0` (bits 7:0) numbers the core in its cluster, field
`Aff1` (bits 15:8) the cluster.

    coreIndex mpidr  =  Aff1 · 4 + Aff0      for Aff0 < 4

An `Aff0` outside its cluster gives `noCore`, which is the index of no core
on any board.
-/
import SecureMonitor.Bits
import SecureMonitor.Level

namespace SecureMonitor

/-! ### Sizes and addresses -/

def coresPerCluster : Nat := 4

/-- Cores with a state of their own, over all clusters. -/
def coreCount : Nat := 8

/-- Applets that one core can hold. -/
def appletSlots : Nat := 8

/-- Base address of the serial line's device. -/
def serialBase : Nat := 0x9000000

/-- Base address of the interrupt controller's CPU interface. -/
def cpuInterfaceBase : Nat := 0x8010000

/-- The level a monitor runs at unless another one is chosen. -/
def defaultLevel : Level := .el3

/-! ### Core numbers -/

/-- The index that stands for "not a core of this board". -/
def noCore : Nat := 0xffffffffffffffff

/-- The index of the core whose affinity register holds `mpidr`. -/
def coreIndex (mpidr : UInt64) : Nat :=
  let core := field mpidr 0 8
  let cluster := field mpidr 8 8
  if core < coresPerCluster then cluster * coresPerCluster + core else noCore

theorem coreIndex_of_lt {mpidr : UInt64} (h : field mpidr 0 8 < coresPerCluster) :
    coreIndex mpidr = field mpidr 8 8 * coresPerCluster + field mpidr 0 8 :=
  if_pos h

theorem coreIndex_of_ge {mpidr : UInt64} (h : coresPerCluster ≤ field mpidr 0 8) :
    coreIndex mpidr = noCore :=
  if_neg (Nat.not_lt.mpr h)

end SecureMonitor
