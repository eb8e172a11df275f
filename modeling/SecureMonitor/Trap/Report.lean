/-
SecureMonitor/Trap/Report.lean

The report of a fatal trap: the fault, the status registers, the first
eight general registers two to a line, and the stack pointers.  It is all
errors, and it leaves the frame as it is.
-/
import SecureMonitor.Frame
import SecureMonitor.Trap.Fault
import SecureMonitor.Journal.Record

namespace SecureMonitor

/-- A register with room for all its digits. -/
def Hex.register (w : UInt64) : String := Hex.padded 18 w.toNat

namespace Fault

/-- The line for register x`n` and the one after it. -/
def registerPair (f : Frame) (n : Nat) : String :=
  s!"  x{n} ={Hex.register (f.arg n)} x{n + 1} ={Hex.register (f.arg (n + 1))}"

/-- The lines of a report, first to last. -/
def reportLines (fault : Fault) (f : Frame) : List String :=
  let ec := f.exceptionClass
  [s!"FATAL: {fault.message}",
    s!"  ELR={Hex.register f.elr} SPSR={Hex.text f.spsr.toNat} " ++
      s!"({f.privilege.name}) SCR={Hex.text f.scr.toNat}",
    s!"  ESR={Hex.text f.esr.toNat} EC={Hex.text ec} ({Syndrome.className ec})"] ++
  [0, 2, 4, 6].map (registerPair f) ++
  [s!"  SP_EL0={Hex.register f.spLower} SP_EL1={Hex.register f.spEl1}"]

/-- The report of a fatal trap as records. -/
def report (fault : Fault) (f : Frame) : List Record :=
  (fault.reportLines f).map fun line => ⟨.error, "monitor::trap", line⟩

end Fault

end SecureMonitor
