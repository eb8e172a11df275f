/-
SecureMonitor/Service/Power.lean

The power state that the test payload tracks for its core.
-/
namespace SecureMonitor

inductive Power
  | on
  | off
  | suspended
deriving DecidableEq, Repr

def Power.name : Power → String
  | on => "On"
  | off => "Off"
  | suspended => "Suspended"

end SecureMonitor
