/-
SecureMonitor/Proofs/FrameEffect.lean

What a trap does to its frame, as long as it leaves the world alone.

    forwarded, fatal    nothing
    completed           x0        the code of the event
                        x1 to x3  what the function returns (`Call.Returns`)
                        elr       x1 as it was, after turning on or suspending
                                  with an address in it (`Event.goesOnAt`)

Everything else in the frame stays.  An applet call is the one that completes
in another way, on another frame; its event tells it from these.
-/
import SecureMonitor.Interrupt.Queue
import SecureMonitor.Proofs.Handling

namespace SecureMonitor

/-! ### What is written -/

/-- What a call to the test payload or the message interface has in x1 to x3:
the result of a computation, or the revision, and otherwise zeros. -/
def Call.Returns (call : Call) (width : CallWidth) (args results : Operands) : Prop :=
  match call with
  | .tsp (.arithmetic op) =>
    ∃ r, op.eval width args.x1 args.x2 = some r ∧ results = { x1 := r, x2 := 0, x3 := 0 }
  | .optee .callsRevision => results = { x1 := 2, x2 := 0, x3 := 0 }
  | _ => results = { x1 := 0, x2 := 0, x3 := 0 }

/-- Where a context goes on after its call completed: at the address in x1 if
the call took one there, and else after the call. -/
def Event.goesOnAt (e : Event) (f : Frame) : UInt64 :=
  if (e = .onDone ∨ e = .suspendDone) ∧ f.arg 1 ≠ 0 then f.arg 1 else f.elr

/-! ### What the services return -/

theorem TspFunction.returns_of_results {fn : TspFunction} {width : CallWidth}
    {args results : Operands} (h : fn.results width args = .ok results) :
    (Call.tsp fn).Returns width args results := by
  cases fn with
  | arithmetic op =>
    simp only [TspFunction.results] at h
    split at h
    · rename_i r hr
      cases h
      exact ⟨r, hr, rfl⟩
    · cases h
  | _ =>
    cases h
    rfl

theorem OpTee.returns_of_handle {s s' : OpTee} {fn : OpTeeFunction} {request : Request}
    {reply : Reply} (h : s.handle fn request = (.ok reply, s')) (width : CallWidth)
    (args : Operands) : (Call.optee fn).Returns width args reply.results := by
  cases fn with
  | log =>
    cases h
    rfl
  | callWithArg =>
    simp only [OpTee.handle] at h
    split at h
    · cases h
      rfl
    · cases h
  | callsRevision =>
    cases h
    rfl

/-- A power function goes on where its event says. -/
theorem Frame.goOn_resume (f : Frame) (fn : TspFunction) :
    f.goOn (fn.resume (f.arg 1)) = { f with elr := fn.event.goesOnAt f } := by
  cases fn with
  | cpuOn | cpuSuspend =>
    by_cases h : f.arg 1 = 0
    · simp [TspFunction.resume, TspFunction.event, Event.goesOnAt, Frame.goOn, h]
    · simp [TspFunction.resume, TspFunction.event, Event.goesOnAt, Frame.goOn, h]
  | _ => rfl

/-! ### One trap -/

variable {γ : Type} [InterruptController γ]

namespace Core

variable {core core' : Core} {v : TrapVector} {f g : Frame} {id : CallId} {call : Call}
  {event : Event}

/-- A call that is no applet's is answered in its own frame. -/
theorem Completes.answered (h : core.Completes f id call event g core')
    (hevent : event ≠ .customEntryDone) :
    ∃ results, call.Returns id.width f.operands results ∧
      ({ f with elr := event.goesOnAt f } : Frame).Answered event.value results g := by
  cases h with
  | tsp ready computed =>
    rw [f.goOn_resume]
    exact ⟨_, TspFunction.returns_of_results computed, Frame.answered_writeReturn ..⟩
  | optee served =>
    exact ⟨_, OpTee.returns_of_handle served _ _, Frame.answered_writeReturn ..⟩
  | invoke => exact absurd rfl hevent
  | leave => exact absurd rfl hevent

/-- The effect of a trap on its frame, on any core.  A trap that is handed on or
that is an error goes on with the frame that trapped.  A call that completes,
and was not for an applet, goes on with that frame as well, but that x0 is the
code of the event, x1 to x3 are what its function returns, and after turning on
or suspending with x1 set the address is the one that x1 held. -/
theorem frame_effect_is_exact (core : Core) (v : TrapVector) (f : Frame) (controller : γ) :
    let step := core.handle v f controller
    (∀ kind, step.result = .ok (.forwarded kind) → step.frame = f) ∧
      (∀ fault, step.result = .error fault → step.frame = f) ∧
      ∀ e, step.result = .ok (.completed e) → e ≠ .customEntryDone →
        ∃ id call results, Call.route v.origin f.callId = .ok (id, call) ∧
          call.Returns id.width f.operands results ∧
          ({ f with elr := e.goesOnAt f } : Frame).Answered e.value results step.frame := by
  intro step
  by_cases hcall : core.phase ≠ .halted ∧ v.disposition f.esr = .call
  · rcases answers_call hcall.1 hcall.2 controller with
      ⟨why, hrefused, -⟩ | ⟨id, call, e, core', routed, hcompleted, hserved⟩
    · refine ⟨?_, ?_, ?_⟩
      · exact fun _ hresult => nomatch hrefused.symm.trans hresult
      · exact fun _ hresult => nomatch hrefused.symm.trans hresult
      · exact fun _ hresult => nomatch hrefused.symm.trans hresult
    · refine ⟨?_, ?_, ?_⟩
      · exact fun _ hresult => nomatch hcompleted.symm.trans hresult
      · exact fun _ hresult => nomatch hcompleted.symm.trans hresult
      · intro e' hresult hevent
        cases hcompleted.symm.trans hresult
        obtain ⟨results, hreturns, hanswered⟩ := hserved.answered hevent
        exact ⟨id, call, results, routed, hreturns, hanswered⟩
  · obtain ⟨hframe, hforwarded⟩ := answers_no_other hcall controller
    refine ⟨fun _ _ => hframe, fun _ _ => hframe, ?_⟩
    intro e hresult
    exact nomatch hforwarded _ hresult

/-- A core at EL1 is suspended with an address in x1.  The answer clears x1, and
the context goes on at the address all the same. -/
theorem frame_effect_is_exact_suspend :
    let f := Frame.calling 0 0xf2000005 { x1 := 0x80004000, x2 := 7 }
    let step := (fresh .el1).handle ⟨.lowerAArch64, .synchronous⟩ f (⟨[]⟩ : InterruptQueue)
    step.result = .ok (.completed .suspendDone) ∧ step.frame.elr = 0x80004000 ∧
      step.frame.operands = {} ∧ step.frame.esr = f.esr := by
  intro f step
  have hresult : step.result = .ok (.completed .suspendDone) :=
    Response.toOption_result_eq_some_iff.mp (by decide +zetaReduce)
  obtain ⟨-, -, hcompleted⟩ := frame_effect_is_exact (fresh .el1) ⟨.lowerAArch64, .synchronous⟩ f
    (⟨[]⟩ : InterruptQueue)
  obtain ⟨id, call, results, hroute, hreturns, hanswered⟩ := hcompleted _ hresult (by decide)
  have hsuspend : Call.route .lowerAArch64 f.callId =
      .ok (⟨.fast, .smc64, .tsp, 5⟩, .tsp .cpuSuspend) := by
    rw [Frame.callId_calling]
    rfl
  cases hsuspend.symm.trans hroute
  refine ⟨hresult, ?_, ?_, hanswered.esr⟩
  · rw [hanswered.elr]
    decide +zetaReduce
  · exact hanswered.results.trans hreturns

end Core

end SecureMonitor
