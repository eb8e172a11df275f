/-
SecureMonitor/Core/Handle.lean

Handling a trap on one core, and a whole run of traps one after another.

* an idle core takes the trap and is done with it;
* a halted core does nothing any more;
* any other core is busy and turns the trap away.
-/
import SecureMonitor.Core.InFlight

namespace SecureMonitor

variable {γ : Type} [InterruptController γ]

namespace Core

/-- Handle a trap on `v` whose context was saved in `f`. -/
def handle (core : Core) (v : TrapVector) (f : Frame) (controller : γ) : Step γ :=
  match core.phase with
  | .idle => (InFlight.start core v f).finish controller
  | .halted => { Response.fatal .halted f controller with core := core }
  | .pending | .routing | .executing | .returning => core.turnAway v f controller

theorem handle_of_idle {core : Core} (h : core.phase = .idle) (v : TrapVector) (f : Frame)
    (controller : γ) :
    core.handle v f controller = (InFlight.start core v f).finish controller := by
  simp [handle, h]

theorem handle_of_halted {core : Core} (h : core.phase = .halted) (v : TrapVector) (f : Frame)
    (controller : γ) :
    core.handle v f controller = { Response.fatal .halted f controller with core := core } := by
  simp [handle, h]

theorem handle_of_busy {core : Core} (hi : core.phase ≠ .idle) (hh : core.phase ≠ .halted)
    (v : TrapVector) (f : Frame) (controller : γ) :
    core.handle v f controller = core.turnAway v f controller := by
  cases h : core.phase <;> simp_all [handle]

/-- The trap that an idle core is at when it comes to a checkpoint.  A core
that does not take the trap passes none. -/
def reach? (core : Core) (v : TrapVector) (f : Frame) (target : Checkpoint) : Option InFlight :=
  match core.phase with
  | .idle => (InFlight.start core v f).reach? target
  | _ => none

/-! ### Runs -/

/-- Handle traps one after another, each with a frame of its own.  What comes
out is the response to each and the core and controller at the end. -/
def run (core : Core) (controller : γ) :
    List (TrapVector × Frame) → List (Response γ) × Core × γ
  | [] => ([], core, controller)
  | (v, f) :: rest =>
    let step := core.handle v f controller
    let (responses, last) := step.core.run step.controller rest
    (step.toResponse :: responses, last)

@[simp] theorem run_nil (core : Core) (controller : γ) :
    core.run controller [] = ([], core, controller) := rfl

/-- A run goes on where the run before it stopped. -/
theorem run_append (core : Core) (controller : γ) (xs ys : List (TrapVector × Frame)) :
    core.run controller (xs ++ ys) =
      ((core.run controller xs).1 ++
          ((core.run controller xs).2.1.run (core.run controller xs).2.2 ys).1,
        ((core.run controller xs).2.1.run (core.run controller xs).2.2 ys).2) := by
  induction xs generalizing core controller with
  | nil => rfl
  | cons x xs ih => simp [run, ih]

end Core

end SecureMonitor
