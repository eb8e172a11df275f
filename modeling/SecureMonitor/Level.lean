/-
SecureMonitor/Level.lean

Where the monitor runs, and the two worlds it stands between.  A monitor
runs at EL1 or at EL3.  Only EL3 owns the secure configuration register, so
only a monitor at EL3 knows which world trapped and can move the core to
the other one.
-/
namespace SecureMonitor

/-! ### Exception levels -/

/-- The exception level a monitor executes at. -/
inductive Level
  | el1
  | el3
deriving DecidableEq, Repr

/-- A level that no monitor can run at was asked for. -/
structure UnsupportedLevel where
  requested : Nat
deriving DecidableEq, Repr

def UnsupportedLevel.message (e : UnsupportedLevel) : String :=
  s!"monitor cannot run at EL{e.requested} (only EL1 and EL3)"

namespace Level

def number : Level → Nat
  | el1 => 1
  | el3 => 3

def ofNumber : Nat → Except UnsupportedLevel Level
  | 1 => .ok el1
  | 3 => .ok el3
  | n => .error ⟨n⟩

def name (l : Level) : String := s!"EL{l.number}"

/-- Only EL3 owns the secure configuration register. -/
def canSwitchWorlds : Level → Bool
  | el1 => false
  | el3 => true

/-- The names of the system registers that a monitor at one level uses. -/
structure Registers where
  vbar : String
  elr : String
  spsr : String
  esr : String
  /-- The secure configuration register, where there is one. -/
  scr : Option String
  spLower : String
deriving DecidableEq, Repr

def registers : Level → Registers
  | el1 => ⟨"vbar_el1", "elr_el1", "spsr_el1", "esr_el1", none, "sp_el0"⟩
  | el3 => ⟨"vbar_el3", "elr_el3", "spsr_el3", "esr_el3", some "scr_el3", "sp_el0"⟩

end Level

/-! ### Worlds -/

/-- The security state that a saved context runs in. -/
inductive World
  | secure
  | nonSecure
deriving DecidableEq, Repr

def World.name : World → String
  | .secure => "Secure"
  | .nonSecure => "NonSecure"

end SecureMonitor
