/-
SecureMonitor/Proofs/Atomicity.lean

A refused call is as if it had not been made, but for its answer.  The
refusal can come from any stage: the identifier, the caller's width, the
function number, the service, or the core when it is to change worlds.  The
last two are the ones to watch.  A service that refuses hands a state back like
one that replies (`Services.serve_of_error`), and when the core cannot go on the
service has acted already (`Core.serve_of_resume_error`).  That nothing is lost
in either case is `Core.perform_core_of_error`, and it enters here through the case
`refused` of `Handles`.
-/
import SecureMonitor.Interrupt.Queue
import SecureMonitor.Proofs.Handling

namespace SecureMonitor

/-! ### The code in x0 -/

/-- A return code fills the register with its sign. -/
theorem ReturnCode.toInt_value (c : ReturnCode) : c.value.toInt64.toInt = c.number.toInt := by
  cases c <;> rfl

theorem ReturnCode.number_neg {c : ReturnCode} (h : c ≠ .success) : c.number < 0 := by
  cases c with
  | success => exact absurd rfl h
  | _ => decide

variable {γ : Type} [InterruptController γ]

namespace Core

/-! ### Refused calls -/

/-- A refused call is atomic.  Whatever an idle core refuses, and at whatever
stage, the whole core is as before — services, applets, parked caller and
level, and idle again — the interrupt controller was not asked, and the
frame is the trapped one with the refusal's code, sign-extended, in x0 and
zeros in x1 to x3. -/
theorem refused_is_atomic {core : Core} (idle : core.phase = .idle) (v : TrapVector)
    (f : Frame) (controller : γ) {why : Refusal}
    (h : (core.handle v f controller).result = .ok (.refused why)) :
    let step := core.handle v f controller
    step.core = core ∧ step.controller = controller ∧ f.Answered why.value {} step.frame ∧
      why.value.toInt64.toInt = why.returnCode.number.toInt ∧ why.returnCode.number < 0 := by
  have hstep := handles_of_idle idle v f controller
  intro step
  change step.result = .ok (.refused why) at h
  change core.Handles v f controller step at hstep
  clear_value step
  cases hstep with
  | ignored => cases h
  | fatal => cases h
  | forwarded => cases h
  | refused =>
    cases h
    refine ⟨rfl, rfl, Frame.answered_writeReturn .., ?_, ?_⟩
    · exact ReturnCode.toInt_value why.returnCode
    · exact ReturnCode.number_neg why.returnCode_ne_success
  | completed => cases h

/-- A refusal that comes late: secure code leaves an applet, the applets
agree, and only then does the core find that no caller is parked. -/
theorem refused_is_atomic_late :
    let f := Frame.calling 0 0xbd000000 { x1 := 7 }
    let step :=
      (fresh .el3).handle ⟨.lowerAArch64, .synchronous⟩ f (⟨[some 5]⟩ : InterruptQueue)
    step.result = .ok (.refused (.denied .noParkedContext)) ∧ step.core = fresh .el3 ∧
      step.controller = ⟨[some 5]⟩ ∧
      f.Answered (Refusal.denied .noParkedContext).value {} step.frame := by
  have hresult : ((fresh .el3).handle ⟨.lowerAArch64, .synchronous⟩
      (Frame.calling 0 0xbd000000 { x1 := 7 }) (⟨[some 5]⟩ : InterruptQueue)).result =
        .ok (.refused (.denied .noParkedContext)) := rfl
  obtain ⟨hcore, hcontroller, hframe, -⟩ := refused_is_atomic rfl _ _ _ hresult
  exact ⟨hresult, hcore, hcontroller, hframe⟩

end Core

end SecureMonitor
