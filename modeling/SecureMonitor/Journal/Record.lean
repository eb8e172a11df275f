/-
SecureMonitor/Journal/Record.lean

A record of the journal: how severe it is, which part of the monitor wrote
it, and what it says.
-/
namespace SecureMonitor

/-! ### Severity -/

inductive Severity
  | error
  | warn
  | info
  | debug
  | trace
deriving DecidableEq, Repr

namespace Severity

/-- The place in the order from the gravest severity to the least. -/
def rank : Severity → Nat
  | error => 1
  | warn => 2
  | info => 3
  | debug => 4
  | trace => 5

def name : Severity → String
  | error => "ERROR"
  | warn => "WARN"
  | info => "INFO"
  | debug => "DEBUG"
  | trace => "TRACE"

/-- At least as grave as the threshold; without a threshold nothing is. -/
def passes (s : Severity) : Option Severity → Bool
  | none => false
  | some threshold => s.rank ≤ threshold.rank

theorem passes_trace (s : Severity) : s.passes (some .trace) = true := by
  cases s <;> rfl

end Severity

/-! ### Records -/

structure Record where
  severity : Severity
  /-- The part of the monitor that wrote the record. -/
  target : String
  message : String
deriving DecidableEq, Repr

end SecureMonitor
