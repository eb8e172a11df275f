/-
SecureMonitor/Machine.lean

All cores of the board.  Before the monitor is set up there is nothing to
hand a trap to; setting it up gives every core a fresh state, and doing so
again forgets the old ones.  Applets are registered on all cores at once,
so that a function number means the same everywhere.
-/
import SecureMonitor.Core.Handle

namespace SecureMonitor

/-- The monitor's state on all cores, once there is any. -/
structure Machine where
  cores : Option (Vector Core coreCount) := none

namespace Machine

/-- The machine before the monitor was set up. -/
def cold : Machine := {}

/-! ### Setting up -/

/-- Set the monitor up, at the level of the image unless another one is chosen. -/
def boot (level : Level := defaultLevel) : Machine :=
  ⟨some (Vector.replicate coreCount (Core.fresh level))⟩

/-- What setting up tells the journal. -/
def bootNotices (level : Level := defaultLevel) : List Notice :=
  .ready level :: Service.all.map .hosting

/-- Register an applet on every core.  Its function number is that of the
last core. -/
def register (m : Machine) (x : Applet) : Option Nat × Machine :=
  match m.cores with
  | none => (none, m)
  | some cores =>
    ((cores[coreCount - 1].register x).1, ⟨some (cores.map fun core => (core.register x).2)⟩)

/-- What a registration tells the journal. -/
def registerNotices (m : Machine) (x : Applet) : List Notice :=
  match (m.register x).1 with
  | none => []
  | some number => [.appletRegistered number x.entry]

/-! ### One core of many -/

/-- The state of a core, or why there is none. -/
def coreAt (m : Machine) (i : Nat) : Except Fault Core :=
  if h : i < coreCount then
    match m.cores with
    | none => .error .uninitialized
    | some cores => .ok cores[i]
  else .error (.unknownCore i)

/-- Put a core's state back. -/
def setCore (m : Machine) (i : Nat) (core : Core) : Machine :=
  ⟨m.cores.map (·.setIfInBounds i core)⟩

theorem coreAt_of_ge (m : Machine) {i : Nat} (h : coreCount ≤ i) :
    m.coreAt i = .error (.unknownCore i) :=
  dif_neg (Nat.not_lt.mpr h)

theorem coreAt_cold {i : Nat} (h : i < coreCount) : cold.coreAt i = .error .uninitialized := by
  simp [cold, coreAt, h]

theorem coreAt_boot (level : Level) {i : Nat} (h : i < coreCount) :
    (boot level).coreAt i = .ok (Core.fresh level) := by
  simp [boot, coreAt, h]

theorem coreAt_setCore_self {m : Machine} {i : Nat} {old : Core} (h : m.coreAt i = .ok old)
    (core : Core) : (m.setCore i core).coreAt i = .ok core := by
  obtain ⟨_ | cores⟩ := m
  · -- before the monitor is set up no core is found
    unfold coreAt at h
    split at h <;> cases h
  · unfold coreAt at h ⊢
    split at h
    · rename_i hi
      simp [setCore, hi]
    · cases h

/-- Putting one core back leaves the others as they are. -/
theorem coreAt_setCore_of_ne (m : Machine) {i j : Nat} (h : i ≠ j) (core : Core) :
    (m.setCore i core).coreAt j = m.coreAt j := by
  obtain ⟨_ | cores⟩ := m
  · rfl
  · simp [setCore, coreAt, h]

end Machine

end SecureMonitor
