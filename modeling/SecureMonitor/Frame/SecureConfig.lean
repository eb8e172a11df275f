/-
SecureMonitor/Frame/SecureConfig.lean

The secure configuration register (SCR).  The monitor names seven of its
bits and keeps all the others as they are.  One of them, NS, is the world:
setting the world writes that bit and no other.
-/
import SecureMonitor.Bits
import SecureMonitor.Level

namespace SecureMonitor.SecureConfig

-- Powers are those of the core library, whatever else is in scope.
attribute [local instance (high)] instPowNat

/-! ### Flags -/

/-- The bits that the monitor has names for. -/
inductive Flag
  /-- Lower levels are in the non-secure world. -/
  | ns
  /-- Interrupts go to EL3. -/
  | irq
  /-- Fast interrupts go to EL3. -/
  | fiq
  /-- External aborts and system errors go to EL3. -/
  | ea
  /-- Secure monitor calls are disabled. -/
  | smd
  /-- Hypervisor calls are enabled. -/
  | hce
  /-- The next lower level runs 64-bit code. -/
  | rw
deriving DecidableEq, Repr

namespace Flag

/-- The flags from the lowest bit upwards. -/
def all : List Flag := [ns, irq, fiq, ea, smd, hce, rw]

def position : Flag → Nat
  | ns => 0
  | irq => 1
  | fiq => 2
  | ea => 3
  | smd => 7
  | hce => 8
  | rw => 10

def name : Flag → String
  | ns => "NS"
  | irq => "IRQ"
  | fiq => "FIQ"
  | ea => "EA"
  | smd => "SMD"
  | hce => "HCE"
  | rw => "RW"

end Flag

def has (scr : UInt64) (f : Flag) : Bool := bit scr f.position

/-- The flags that are set, from the lowest bit upwards. -/
def flags (scr : UInt64) : List Flag := Flag.all.filter (has scr)

/-- The part of the register that has names. -/
def known (scr : UInt64) : UInt64 :=
  UInt64.ofNat ((flags scr).foldr (2 ^ ·.position + ·) 0)

/-! ### The world -/

/-- The world that the register puts the lower levels in. -/
def world (scr : UInt64) : World :=
  if has scr .ns then .nonSecure else .secure

/-- The register with its world set and every other bit kept. -/
def withWorld (w : World) (scr : UInt64) : UInt64 :=
  match w with
  | .nonSecure => scr ||| 1
  | .secure => scr &&& ~~~1

theorem world_eq_nonSecure_iff {scr : UInt64} :
    world scr = .nonSecure ↔ has scr .ns = true := by
  simp [world]

theorem world_eq_secure_iff {scr : UInt64} : world scr = .secure ↔ has scr .ns = false := by
  simp [world]

end SecureMonitor.SecureConfig
