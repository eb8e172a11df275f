/-
SecureMonitor/Proofs/Isolation.lean

A service cannot tell whether another one was called.  Take a run and leave
out any calls to one service (`Thinned`).  The two runs get out of step where
a call is missing, but

* the other traps show the same (`Core.observations`): the same answer, the
  same frame to go on with, and the same interrupts acknowledged and
  completed;
* the other services end in the same state.

The proof carries along that the two cores agree but for that service.  A trap
that is in both runs keeps this up, because it either goes to another part of
the core or changes that service's part only; a trap that is in one run only
changes that service's part and nothing else.
-/
import SecureMonitor.Interrupt.Accounted
import SecureMonitor.Interrupt.Queue
import SecureMonitor.Proofs.Separation

namespace SecureMonitor

/-! ### Runs with calls left out -/

/-- The second list is the first one with some calls to `s` left out. -/
inductive Thinned (s : Service) :
    List (TrapVector × Frame) → List (TrapVector × Frame) → Prop
  | nil : Thinned s [] []
  | keep {traps thinned : List (TrapVector × Frame)} (v : TrapVector) (f : Frame)
      (rest : Thinned s traps thinned) : Thinned s ((v, f) :: traps) ((v, f) :: thinned)
  | drop {v : TrapVector} {f : Frame} {traps thinned : List (TrapVector × Frame)}
      (call : v.addressee? f = some s) (rest : Thinned s traps thinned) :
      Thinned s ((v, f) :: traps) thinned

/-! ### What a run shows -/

/-- What a trap shows: how it was answered, the frame that the core goes on
with, and what the controller was asked for and told. -/
structure Observation where
  vector : TrapVector
  trapped : Frame
  result : Except Fault Outcome
  frame : Frame
  acknowledged : List (Option UInt32)
  completed : List UInt32

variable {γ : Type} [InterruptController γ]

/-- The observation of a trap that came in when the account was `before`. -/
def Response.observation (r : Response (Accounted γ)) (v : TrapVector) (f : Frame)
    (before : Accounted γ) : Observation where
  vector := v
  trapped := f
  result := r.result
  frame := r.frame
  acknowledged := r.controller.acknowledged.drop before.acknowledged.length
  completed := r.controller.completed.drop before.completed.length

namespace Core

/-- What the traps of a run show that are no calls to `s`. -/
def observations (s : Service) (core : Core) (account : Accounted γ) :
    List (TrapVector × Frame) → List Observation
  | [] => []
  | (v, f) :: rest =>
    let step := core.handle v f account
    let later := step.core.observations s step.controller rest
    if v.addressee? f = some s then later
    else step.toResponse.observation v f account :: later

variable {s : Service} {c d : Core}

section

variable {v : TrapVector} {f : Frame} (core : Core) (account : Accounted γ)
  (rest : List (TrapVector × Frame))

theorem observations_cons_of_call (h : v.addressee? f = some s) :
    core.observations s account ((v, f) :: rest) =
      (core.handle v f account).core.observations s (core.handle v f account).controller
        rest := by
  simp only [observations, if_pos h]

theorem observations_cons_of_other (h : v.addressee? f ≠ some s) :
    core.observations s account ((v, f) :: rest) =
      (core.handle v f account).toResponse.observation v f account ::
        (core.handle v f account).core.observations s (core.handle v f account).controller
          rest := by
  simp only [observations, if_neg h]

end

/-! ### Side by side -/

/-- Two runs, the second of which leaves out calls to `s`, from cores that
agree but for `s`. -/
theorem isolated_of_agreeBut {traps thinned : List (TrapVector × Frame)}
    (h : Thinned s traps thinned) (hc : AgreeBut s c d) (account : Accounted γ) :
    c.observations s account traps = d.observations s account thinned ∧
      AgreeBut s (c.coreAfter account traps) (d.coreAfter account thinned) := by
  induction h generalizing c d account with
  | nil => exact ⟨rfl, hc⟩
  | keep v f rest ih =>
    -- both runs take the step, and the cores agree as before
    obtain ⟨hcontroller, hcore⟩ := hc.step v f account
    obtain ⟨hobserved, hlast⟩ := ih hcore (d.handle v f account).controller
    rw [coreAfter_cons, coreAfter_cons, hcontroller]
    by_cases hcall : v.addressee? f = some s
    · rw [observations_cons_of_call _ _ _ hcall, observations_cons_of_call _ _ _ hcall,
        hcontroller]
      exact ⟨hobserved, hlast⟩
    · have hcallee : v.callee? f ≠ some s := fun h =>
        hcall (TrapVector.addressee?_of_callee? h)
      have hresponse := (hc.handle hcallee account).1
      rw [observations_cons_of_other _ _ _ hcall, observations_cons_of_other _ _ _ hcall,
        hcontroller, hresponse, hobserved]
      exact ⟨rfl, hlast⟩
  | drop hcall rest ih =>
    -- the first run takes a step alone
    obtain ⟨hcontroller, hcore⟩ := agreeBut_handle hcall c account
    rw [coreAfter_cons, observations_cons_of_call _ _ _ hcall, hcontroller]
    exact ih (hcore.trans hc) account

/-- The services of a core are isolated from each other.  Take any run of a
monitor at either level, whatever applets it hosts, and leave out any calls to
one service.  Every trap that is no call to that service is answered as
before, goes on with the same frame, and has the same interrupts acknowledged
and completed; and in the end the core has come as far and is the same to
every other service. -/
theorem services_are_isolated (level : Level) (applets : List Applet) (device : γ)
    (s : Service) {traps thinned : List (TrapVector × Frame)} (h : Thinned s traps thinned) :
    let core := hosting level applets
    let account : Accounted γ := { device := device }
    core.observations s account thinned = core.observations s account traps ∧
      AgreeBut s (core.coreAfter account thinned) (core.coreAfter account traps) := by
  intro core account
  obtain ⟨hobserved, hlast⟩ := isolated_of_agreeBut h (AgreeBut.refl s core) account
  exact ⟨hobserved.symm, hlast.symm⟩

/-- A run in which the power state of the test payload changes between the
other services' calls, and the same run without.  The caller is parked and
restored, the message is counted and the interrupt completed in both. -/
theorem services_are_isolated_thinned :
    let core := hosting .el3 [⟨0x0e200000, 0x0e300000⟩]
    let sync : TrapVector := ⟨.lowerAArch64, .synchronous⟩
    let kept : List (TrapVector × Frame) :=
      [(sync, Frame.calling 0x401 0xbd000001 {}), (⟨.lowerAArch64, .irq⟩, Frame.calling 0x400 0 {}),
        (sync, Frame.calling 0x400 0xbd000000 { x1 := 42 }),
        (sync, Frame.calling 0x401 0x3e000004 {})]
    let off := (sync, Frame.calling 0x401 0xf2000002 {})
    let account : Accounted InterruptQueue := { device := ⟨[some 27]⟩ }
    Thinned .tsp (off :: kept) kept ∧
      (core.observations .tsp account (off :: kept)).map (·.result.toOption) =
        [some (.completed .customEntryDone), some (.forwarded .irq),
          some (.completed .customEntryDone), some (.completed .opteeEntryDone)] ∧
      (core.observations .tsp account (off :: kept)).flatMap (·.completed) = [27] ∧
      (core.coreAfter account (off :: kept)).services.optee = ⟨1⟩ := by
  intro core sync kept off account
  have hthinned : Thinned .tsp (off :: kept) kept :=
    .drop (by decide +zetaReduce)
      (.keep _ _ (.keep _ _ (.keep _ _ (.keep _ _ .nil))))
  obtain ⟨hobserved, hlast⟩ := services_are_isolated .el3 [⟨0x0e200000, 0x0e300000⟩]
    (⟨[some 27]⟩ : InterruptQueue) .tsp hthinned
  refine ⟨hthinned, ?_, ?_, ?_⟩
  · rw [← hobserved]
    decide +zetaReduce
  · rw [← hobserved]
    decide +zetaReduce
  · have hsame : (core.coreAfter account kept).services.optee =
        (core.coreAfter account (off :: kept)).services.optee := hlast.others .optee nofun
    rw [← hsame]
    decide +zetaReduce

end Core

end SecureMonitor
