/-
SecureMonitor/Proofs/Fallback.lean

Turning a trap away, beside handling it.  A trap that finds its core at another
trap is turned away, and so is one that cannot get at its core at all, since
nothing is read of the core or written to it:

                     an idle core             turned away
    fatal            its fault                its fault
    interrupt        handed on                handed on
    system error     handed on                handed on
    call             completed or refused     refused as busy

Each side finds out by tests of its own what a trap is, with other effects
around them.  The tests come to the same (`turnAway_eq`), and so result, frame and
controller are the same in all lines but the last (`SameOutcome`).  So where a
core's state is out of reach, falling back on turning its traps away costs the
calls that come in meanwhile, and nothing else (`handleHeld_sameOutcome`).
-/
import SecureMonitor.Interrupt.Accounted
import SecureMonitor.Interrupt.Queue
import SecureMonitor.Machine.Deliver
import SecureMonitor.Proofs.Halting

namespace SecureMonitor

open InterruptController

variable {γ : Type}

/-- Two responses that are the same to all but the journal: to the one who looks
at the result, to the context that trapped, and to the interrupt controller. -/
structure Response.SameOutcome (r s : Response γ) : Prop where
  result : r.result = s.result
  frame : r.frame = s.frame
  controller : r.controller = s.controller

variable [InterruptController γ]

namespace Core

variable {core : Core} {v : TrapVector} {f : Frame}

/-! ### Handling and turning away -/

/-- What is no call comes to the same on any core that has not halted. -/
theorem sameOutcome_of_not_call (awake : core.phase ≠ .halted)
    (hcall : v.disposition f.esr ≠ .call) (controller : γ) :
    (core.handle v f controller).toResponse.SameOutcome (SecureMonitor.turnAway v f controller) := by
  cases found : v.disposition f.esr with
  | fatal fault =>
    obtain ⟨hresult, hframe, hcontroller, -⟩ := handle_of_fatal awake found controller
    rw [turnAway_of_fatal found]
    exact ⟨hresult, hframe, hcontroller⟩
  | forward =>
    obtain ⟨hresult, hframe, hcontroller, -⟩ := handle_of_forward awake found controller
    rw [turnAway_of_forward found]
    exact ⟨hresult, hframe, hcontroller⟩
  | call => exact absurd found hcall

/-- A call does so on a core that is at another trap. -/
theorem sameOutcome_of_busy (hi : core.phase ≠ .idle) (hh : core.phase ≠ .halted)
    (v : TrapVector) (f : Frame) (controller : γ) :
    (core.handle v f controller).toResponse.SameOutcome (SecureMonitor.turnAway v f controller) := by
  by_cases found : v.disposition f.esr = .call
  · obtain ⟨hresult, hframe, hcontroller, -⟩ := handle_of_nested_call hi hh found controller
    rw [turnAway_of_call found]
    exact ⟨hresult, hframe, hcontroller⟩
  · exact sameOutcome_of_not_call hh found controller

/-- An idle core and a busy one differ in calls only.  Let a trap of any kind be
handed to a core, with any interrupt controller, so also with one that keeps
account of what it is asked.  If the core is idle and the trap is no monitor call
from below, handling it and turning it away come to the same result, frame and
controller: its frame is as it was, and either the trap is fatal, with the same
fault, or it is handed on and the controller serves it.  If it is a call, turning
it away refuses it as busy, handling it completes or refuses it, neither is an
error, and the controller is not asked.  A core that is neither idle nor halted
makes of every trap what turning it away makes of it. -/
theorem idle_and_busy_differ_in_calls_only (core : Core) (v : TrapVector) (f : Frame)
    (controller : γ) :
    let busy := SecureMonitor.turnAway v f controller
    let step := core.handle v f controller
    (core.phase = .idle → ¬v.IsCall f →
      step.toResponse.SameOutcome busy ∧ busy.frame = f ∧
        ((∃ fault, v.fault? f = some fault ∧ busy.result = .error fault ∧
            busy.controller = controller) ∨
          v.fault? f = none ∧ busy.result = .ok (.forwarded v.kind) ∧
            busy.controller = (serve v controller).1)) ∧
    (core.phase = .idle → v.IsCall f →
      busy.result = .ok (.refused .busy) ∧ busy.controller = controller ∧
        step.controller = controller ∧
        ((∃ e, step.result = .ok (.completed e)) ∨ ∃ why, step.result = .ok (.refused why))) ∧
    (core.phase ≠ .idle → core.phase ≠ .halted → step.toResponse.SameOutcome busy) := by
  intro busy step
  have awake (idle : core.phase = .idle) : core.phase ≠ .halted := by
    rw [idle]
    decide
  refine ⟨?_, ?_, ?_⟩
  · intro idle hcall
    rw [TrapVector.isCall_iff] at hcall
    have hsame : step.toResponse.SameOutcome busy :=
      sameOutcome_of_not_call (awake idle) hcall controller
    cases found : v.disposition f.esr with
    | fatal fault =>
      have hfault := TrapVector.disposition_eq_fatal_iff.mp found
      have hbusy : busy = .fatal fault f controller := turnAway_of_fatal found controller
      rw [hbusy] at hsame ⊢
      exact ⟨hsame, rfl, .inl ⟨fault, hfault, rfl, rfl⟩⟩
    | forward =>
      have hfault : v.fault? f = none := by
        refine Option.eq_none_iff_forall_ne_some.mpr fun fault hfault => ?_
        exact nomatch found.symm.trans (TrapVector.disposition_eq_fatal_iff.mpr hfault)
      have hbusy := turnAway_of_forward found controller
      refine ⟨hsame, ?_, .inr ⟨hfault, ?_, ?_⟩⟩
      · exact congrArg Response.frame hbusy
      · exact congrArg Response.result hbusy
      · exact congrArg Response.controller hbusy
    | call => exact absurd found hcall
  · intro idle hcall
    have found := TrapVector.isCall_iff.mp hcall
    have hbusy := turnAway_of_call found controller
    refine ⟨congrArg Response.result hbusy, congrArg Response.controller hbusy,
      controller_of_call found controller, ?_⟩
    rcases answers_call (awake idle) found controller with
      ⟨why, hrefused, -⟩ | ⟨-, -, event, -, -, hcompleted, -⟩
    · exact .inr ⟨why, hrefused⟩
    · exact .inl ⟨event, hcompleted⟩
  · intro hi hh
    exact sameOutcome_of_busy hi hh v f controller

/-- An idle core and the fallback hand the same interrupt on, and ask the same of
the controller. -/
theorem idle_and_busy_differ_in_calls_only_interrupt :
    let f := Frame.calling 0 0xf2000000 {}
    let gic : Accounted InterruptQueue := { device := ⟨[some 27]⟩ }
    let busy := SecureMonitor.turnAway ⟨.lowerAArch64, .irq⟩ f gic
    ((fresh .el3).handle ⟨.lowerAArch64, .irq⟩ f gic).toResponse.SameOutcome busy ∧
      busy.frame = f ∧ busy.result = .ok (.forwarded .irq) ∧
      busy.controller.acknowledged = [some 27] ∧ busy.controller.completed = [27] := by
  intro f gic busy
  obtain ⟨hidle, -, -⟩ := idle_and_busy_differ_in_calls_only (fresh .el3) ⟨.lowerAArch64, .irq⟩ f gic
  obtain ⟨hsame, hframe, hfatal | ⟨-, hresult, hcontroller⟩⟩ :=
    hidle rfl fun hcall => nomatch hcall.kind
  · obtain ⟨fault, hfault, -⟩ := hfatal
    exact nomatch hfault
  · refine ⟨hsame, hframe, hresult, ?_, ?_⟩
    · rw [hcontroller]
      decide +zetaReduce
    · rw [hcontroller]
      decide +zetaReduce

end Core

/-! ### Falling back -/

/-- What a machine makes of a trap while the core is held is what it would have
made of it otherwise, if the core is at another trap or the trap is no call.  The
machine itself stays as it is. -/
theorem Machine.handleHeld_sameOutcome {m : Machine} {held : List Nat} {a : Arrival γ}
    {core : Core} (hcore : m.coreAt a.core = .ok core) (hheld : a.core ∈ held)
    (awake : core.phase ≠ .halted)
    (h : core.phase ≠ .idle ∨ ¬a.vector.IsCall a.frame) :
    (m.handle a).2.SameOutcome (m.handleHeld held a).2 ∧ (m.handleHeld held a).1 = m := by
  have hturn : m.handleHeld held a = (m, turnAway a.vector a.frame a.controller) := by
    simp only [handleHeld, hcore, List.contains_iff_mem.mpr hheld, if_true]
  rw [handle_of_coreAt_ok hcore, hturn]
  refine ⟨?_, rfl⟩
  rcases h with hbusy | hcall
  · exact Core.sameOutcome_of_busy hbusy awake _ _ _
  · exact Core.sameOutcome_of_not_call awake (fun found => hcall (TrapVector.isCall_iff.mpr found)) _

end SecureMonitor
