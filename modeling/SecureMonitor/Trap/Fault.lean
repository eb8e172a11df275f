/-
SecureMonitor/Trap/Fault.lean

Traps that the monitor cannot return from, and the tests by which an idle
core tells them from the others.  What a trap is follows from its vector and
its syndrome alone (`TrapVector.disposition`):

* on a vector without a monitor stack it is fatal;
* a synchronous trap is a call when a lower level made a secure monitor
  call, and fatal otherwise;
* an interrupt or system error is handed on.

A core that is busy cannot go through these tests, which are part of taking a
trap.  It has tests of its own, in `turnAway`.
-/
import SecureMonitor.Trap.Vector
import SecureMonitor.Trap.Syndrome

namespace SecureMonitor

/-! ### Faults -/

/-- Why a trap cannot be returned from. -/
inductive Fault
  /-- The vector leaves the monitor no stack. -/
  | unrecoverableVector (vector : TrapVector)
  /-- A synchronous trap that is no secure monitor call from below. -/
  | unexpectedSync (vector : TrapVector) (exceptionClass : Nat)
  /-- The entry code handed over a tag of no vector. -/
  | unknownVector (tag : UInt64)
  /-- The trapped core is none of this board. -/
  | unknownCore (core : Nat)
  /-- The trap came before the monitor was set up. -/
  | uninitialized
  /-- An earlier trap was fatal to the core. -/
  | halted
deriving DecidableEq, Repr

def Fault.message : Fault → String
  | unrecoverableVector v => s!"unrecoverable exception vector {v.text}"
  | unexpectedSync v ec => s!"unexpected synchronous exception EC={Hex.text ec} on {v.text}"
  | unknownVector tag => s!"unknown vector tag {Hex.text tag.toNat}"
  | unknownCore core => s!"trap on unknown core {core}"
  | uninitialized => "trap before monitor initialization"
  | halted => "core already halted"

/-! ### Disposition -/

/-- What the monitor has to do with a trap. -/
inductive Disposition
  | fatal (fault : Fault)
  | call
  | forward
deriving DecidableEq, Repr

/-- What an idle core finds a trap on `v` with syndrome `esr` to be. -/
def TrapVector.disposition (v : TrapVector) (esr : UInt64) : Disposition :=
  if !v.recoverable then .fatal (.unrecoverableVector v)
  else match v.kind with
    | .synchronous =>
      let ec := Syndrome.exceptionClass esr
      if v.origin.isLower && Syndrome.isCall ec then .call
      else .fatal (.unexpectedSync v ec)
    | .irq | .fiq | .serror => .forward

theorem TrapVector.disposition_eq_call_iff {v : TrapVector} {esr : UInt64} :
    v.disposition esr = .call ↔
      v.kind = .synchronous ∧ v.origin.isLower = true ∧
        Syndrome.isCall (Syndrome.exceptionClass esr) = true := by
  obtain ⟨o, k⟩ := v
  cases o <;> cases k <;>
    simp [disposition, recoverable, TrapOrigin.isLower]

theorem TrapVector.disposition_eq_forward_iff {v : TrapVector} {esr : UInt64} :
    v.disposition esr = .forward ↔ v.origin ≠ .currentSp0 ∧ v.kind ≠ .synchronous := by
  obtain ⟨o, k⟩ := v
  cases o <;> cases k <;>
    simp [disposition, recoverable, TrapOrigin.isLower]
  all_goals split <;> simp

end SecureMonitor
