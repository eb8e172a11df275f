/-
SecureMonitor/Proofs/Width.lean

What a 32-bit call to the test payload reads.  Two frames with the same lower
halves of x1 and x2, and the same in everything else (`SameLowerHalves`), ask for
the same with such a call: the payload is in the same state afterwards, and the
answers are the same in all registers.

    arithmetic               on the lower halves
    turning on, suspending   at all of x1
    everything else          reads no argument

The address to go on at is the exception (`handle_congr_of_smc32`).  It is x1 as it
stands, upper half included, so the two frames go on at different addresses where
they differ there, or one of them at x1 and the other after the call.
-/
import SecureMonitor.Proofs.FrameEffect

namespace SecureMonitor

/-! ### Lower halves -/

/-- Two frames that differ in the upper halves of x1 and x2 at most. -/
structure Frame.SameLowerHalves (f g : Frame) : Prop where
  x1 : (f.arg 1).toUInt32 = (g.arg 1).toUInt32
  x2 : (f.arg 2).toUInt32 = (g.arg 2).toUInt32
  others : ∀ n, n ≠ 1 → n ≠ 2 → f.arg n = g.arg n
  elr : f.elr = g.elr
  spsr : f.spsr = g.spsr
  scr : f.scr = g.scr
  esr : f.esr = g.esr
  spLower : f.spLower = g.spLower
  spEl1 : f.spEl1 = g.spEl1

/-- The address that a frame hands over in x1, with zero for "after the call". -/
def Frame.target (f : Frame) : UInt64 := if f.arg 1 = 0 then f.elr else f.arg 1

/-- The events after which a context goes on at its target. -/
def Event.Jumps (e : Event) : Prop := e = .onDone ∨ e = .suspendDone

theorem Event.goesOnAt_of_jumps {e : Event} (h : e.Jumps) (f : Frame) :
    e.goesOnAt f = f.target := by
  by_cases hx1 : f.arg 1 = 0
  · rw [goesOnAt, if_neg fun hboth => hboth.2 hx1, Frame.target, if_pos hx1]
  · rw [goesOnAt, if_pos ⟨h, hx1⟩, Frame.target, if_neg hx1]

theorem Event.goesOnAt_of_not_jumps {e : Event} (h : ¬e.Jumps) (f : Frame) :
    e.goesOnAt f = f.elr :=
  if_neg fun hboth => h hboth.1

namespace Frame.SameLowerHalves

variable {f g : Frame}

theorem refl (f : Frame) : f.SameLowerHalves f :=
  ⟨rfl, rfl, fun _ _ _ => rfl, rfl, rfl, rfl, rfl, rfl, rfl⟩

theorem callId_eq (h : f.SameLowerHalves g) : f.callId = g.callId :=
  h.others 0 (by decide) (by decide)

/-- They still do when they are sent to one address. -/
theorem withElr (h : f.SameLowerHalves g) (address : UInt64) :
    ({ f with elr := address } : Frame).SameLowerHalves { g with elr := address } :=
  ⟨h.x1, h.x2, h.others, rfl, h.spsr, h.scr, h.esr, h.spLower, h.spEl1⟩

/-- An answer is written over the registers in which they differ. -/
theorem writeReturn_eq (h : f.SameLowerHalves g) (x0 : UInt64) (results : Operands) :
    f.writeReturn x0 results = g.writeReturn x0 results := by
  have hf := answered_writeReturn f x0 results
  have hg : g.Answered x0 results (f.writeReturn x0 results) :=
    { x0 := hf.x0
      results := hf.results
      elr := hf.elr.trans h.elr
      spsr := hf.spsr.trans h.spsr
      scr := hf.scr.trans h.scr
      esr := hf.esr.trans h.esr
      spLower := hf.spLower.trans h.spLower
      spEl1 := hf.spEl1.trans h.spEl1
      kept := fun n hn => (hf.kept n hn).trans (h.others n (by omega) (by omega)) }
  exact hg.eq_writeReturn

/-- Frames of two calls with the same identifier. -/
theorem calling (scr id : UInt64) {args args' : Operands}
    (h1 : args.x1.toUInt32 = args'.x1.toUInt32) (h2 : args.x2.toUInt32 = args'.x2.toUInt32)
    (h3 : args.x3 = args'.x3) :
    (Frame.calling scr id args).SameLowerHalves (Frame.calling scr id args') := by
  have hoperands : (Frame.calling scr id args).operands = args := operands_writeReturn ..
  have hoperands' : (Frame.calling scr id args').operands = args' := operands_writeReturn ..
  refine ⟨?_, ?_, ?_, rfl, rfl, rfl, rfl, rfl, rfl⟩
  · rwa [← hoperands, ← hoperands'] at h1
  · rwa [← hoperands, ← hoperands'] at h2
  · intro n hn1 hn2
    rcases Nat.lt_or_ge n 4 with hn | hn
    · obtain rfl | rfl : n = 0 ∨ n = 3 := by omega
      · exact (callId_calling scr id args).trans (callId_calling scr id args').symm
      · rwa [← hoperands, ← hoperands'] at h3
    · exact (arg_writeReturn_of_ge _ _ _ hn).trans (arg_writeReturn_of_ge _ _ _ hn).symm

/-- After a call that does not jump, both go on at the address they came from. -/
theorem goesOnAt_eq (h : f.SameLowerHalves g) {event : Event}
    (htarget : event.Jumps → g.target = f.target) : event.goesOnAt g = event.goesOnAt f := by
  by_cases hjumps : event.Jumps
  · rw [event.goesOnAt_of_jumps hjumps, event.goesOnAt_of_jumps hjumps, htarget hjumps]
  · rw [event.goesOnAt_of_not_jumps hjumps, event.goesOnAt_of_not_jumps hjumps, h.elr]

end Frame.SameLowerHalves

/-! ### The payload -/

/-- A 32-bit call computes with lower halves. -/
theorem TspFunction.results_congr_of_smc32 (fn : TspFunction) {args args' : Operands}
    (h1 : args.x1.toUInt32 = args'.x1.toUInt32) (h2 : args.x2.toUInt32 = args'.x2.toUInt32) :
    fn.results .smc32 args = fn.results .smc32 args' := by
  cases fn with
  | arithmetic op => simp only [results, Operator.eval, h1, h2]
  | _ => rfl

namespace Core

variable {core : Core} {f g : Frame} {id : CallId}

/-- The payload says the same to both, but for the address to go on at. -/
theorem handle_tsp_congr_of_smc32 (h : f.SameLowerHalves g) (narrow : id.width = .smc32)
    (fn : TspFunction) (t : Tsp) :
    t.handle fn (core.request g id) =
      let (answer, t') := t.handle fn (core.request f id)
      (answer.map fun reply => { reply with resume := fn.resume (g.arg 1) }, t') := by
  have hresults : fn.results id.width g.operands = fn.results id.width f.operands := by
    rw [narrow]
    exact fn.results_congr_of_smc32 h.x1.symm h.x2.symm
  simp only [Tsp.handle, request, hresults]
  split
  · rfl
  · split <;> rfl

/-- So serving it differs in that address only. -/
theorem perform_tsp_congr_of_smc32 (h : f.SameLowerHalves g) (narrow : id.width = .smc32)
    (fn : TspFunction) :
    core.perform g id (.tsp fn) =
      { core.perform f id (.tsp fn) with
        result := (core.perform f id (.tsp fn)).result.map fun (event, next) =>
          (event, { next with elr := event.goesOnAt g }) } := by
  simp only [perform_tsp, handle_tsp_congr_of_smc32 h narrow fn]
  rcases hserve : core.services.tsp.handle fn (core.request f id) with ⟨why | reply, t⟩
  · rfl
  · obtain ⟨-, -, results, -, rfl⟩ := Tsp.handle_ok hserve
    have hx1 : (core.request f id).operands.x1 = f.arg 1 := rfl
    simp only [Except.map, hx1, Frame.goOn_resume, ← (h.withElr _).writeReturn_eq]
    rfl

end Core

/-! ### The whole trap -/

variable {γ : Type}

/-- The step, but that a completed call goes on as `g` asks. -/
def Step.goingOnAs (step : Step γ) (g : Frame) : Step γ :=
  match step.result with
  | .ok (.completed event) =>
    { step with frame := { step.frame with elr := event.goesOnAt g } }
  | _ => step

namespace Step

variable {step : Step γ} {event : Event} {g : Frame}

theorem goingOnAs_of_completed (h : step.result = .ok (.completed event)) (g : Frame) :
    step.goingOnAs g =
      { step with frame := { step.frame with elr := event.goesOnAt g } } := by
  simp only [goingOnAs, h]

theorem goingOnAs_of_not_completed (h : ∀ event, step.result ≠ .ok (.completed event))
    (g : Frame) : step.goingOnAs g = step := by
  unfold goingOnAs
  split
  · exact absurd ‹_› (h _)
  · rfl

/-- Nothing else is up to `g`. -/
theorem goingOnAs_eq (step : Step γ) (g : Frame) :
    step.goingOnAs g =
      { step with frame := { step.frame with elr := (step.goingOnAs g).frame.elr } } := by
  unfold goingOnAs
  split <;> rfl

end Step

namespace Core

variable [InterruptController γ] {core : Core} {v : TrapVector} {f g : Frame} {id : CallId}
  {fn : TspFunction}

/-- Two frames that agree but for upper halves are answered the same by a 32-bit call
of the payload, but for the address to go on at. -/
theorem handle_congr_of_smc32 (idle : core.phase = .idle) (found : v.disposition f.esr = .call)
    (routed : Call.route v.origin f.callId = .ok (id, .tsp fn)) (narrow : id.width = .smc32)
    (h : f.SameLowerHalves g) (controller : γ) :
    core.handle v g controller = (core.handle v f controller).goingOnAs g := by
  have found' : v.disposition g.esr = .call := h.esr ▸ found
  have routed' : Call.route v.origin g.callId = .ok (id, .tsp fn) := h.callId_eq ▸ routed
  -- what `g` has in its upper halves is gone with the answer, but for the address
  have hperform : core.perform g id (.tsp fn) = _ := perform_tsp_congr_of_smc32 h narrow fn
  cases hp : (core.perform f id (.tsp fn)).result with
  | error why =>
    rw [hp] at hperform
    have hp' : (core.perform g id (.tsp fn)).result = .error why := by
      rw [hperform]
      rfl
    rw [handle_of_unserved idle found routed hp, handle_of_unserved idle found' routed' hp',
      hperform, ← h.elr, ← h.callId_eq, ← h.writeReturn_eq]
    rfl
  | ok done =>
    obtain ⟨event, next⟩ := done
    rw [hp] at hperform
    have hp' : (core.perform g id (.tsp fn)).result =
        .ok (event, { next with elr := event.goesOnAt g }) := by
      rw [hperform]
      rfl
    rw [handle_of_served idle found routed hp, handle_of_served idle found' routed' hp',
      hperform, ← h.elr]
    rfl

/-- What a 32-bit call of the payload reads of its arguments.  Make such a call to an
idle core in two frames that differ in the upper halves of x1 and x2 at most.  The two
steps are the same, core and answer included, but for the address to go on at.  If the
call turned the core on or suspended it, that address is all of x1, or after the call
if all of x1 is zero, in either frame.  So the steps are the same throughout exactly
if the call did neither or these addresses are the same. -/
theorem narrow_call_jumps_to_all_of_x1 (idle : core.phase = .idle) (hcall : v.IsCall f)
    (routed : Call.route v.origin f.callId = .ok (id, .tsp fn)) (narrow : id.width = .smc32)
    (h : f.SameLowerHalves g) (controller : γ) :
    let a := core.handle v f controller
    let b := core.handle v g controller
    b = { a with frame := { a.frame with elr := b.frame.elr } } ∧
      (∀ event, a.result = .ok (.completed event) → event.Jumps →
        a.frame.elr = f.target ∧ b.frame.elr = g.target) ∧
      (b = a ↔
        ∀ event, a.result = .ok (.completed event) → event.Jumps → g.target = f.target) := by
  intro a b
  have found := TrapVector.isCall_iff.mp hcall
  -- both go on as the first step does, the first one too
  have ha : a = a.goingOnAs f :=
    handle_congr_of_smc32 idle found routed narrow (.refl f) controller
  have hb : b = a.goingOnAs g := handle_congr_of_smc32 idle found routed narrow h controller
  have hjump : ∀ event, a.result = .ok (.completed event) → event.Jumps →
      a.frame.elr = f.target ∧ b.frame.elr = g.target := by
    intro event hresult hjumps
    constructor
    · rw [ha, Step.goingOnAs_of_completed hresult, event.goesOnAt_of_jumps hjumps]
    · rw [hb, Step.goingOnAs_of_completed hresult, event.goesOnAt_of_jumps hjumps]
  refine ⟨?_, hjump, ?_⟩
  · rw [hb]
    exact a.goingOnAs_eq g
  · constructor
    · intro hsame event hresult hjumps
      obtain ⟨hf, hg⟩ := hjump event hresult hjumps
      rw [← hf, ← hg, hsame]
    · intro htarget
      rw [hb]
      by_cases hcompleted : ∃ event, a.result = .ok (.completed event)
      · obtain ⟨event, hresult⟩ := hcompleted
        have hgoesOn := h.goesOnAt_eq (htarget event hresult)
        rw [Step.goingOnAs_of_completed hresult, hgoesOn, ← Step.goingOnAs_of_completed hresult]
        exact ha.symm
      · exact Step.goingOnAs_of_not_completed (not_exists.mp hcompleted) g

/-- A 32-bit addition reads lower halves: with 1 in the upper half of x1 or without,
3 and 4 are 7. -/
theorem narrow_call_jumps_to_all_of_x1_add :
    let f := Frame.calling 0x401 0xb2002000 { x1 := 0x100000003, x2 := 4 }
    let g := Frame.calling 0x401 0xb2002000 { x1 := 3, x2 := 4 }
    let sync : TrapVector := ⟨.lowerAArch64, .synchronous⟩
    let a := (fresh .el3).handle sync f (⟨[]⟩ : InterruptQueue)
    let b := (fresh .el3).handle sync g (⟨[]⟩ : InterruptQueue)
    a.result = .ok (.completed .entryDone) ∧ a.frame.arg 1 = 7 ∧ b = a := by
  intro f g sync a b
  have hresult : a.result = .ok (.completed .entryDone) :=
    Response.toOption_result_eq_some_iff.mp (by decide +zetaReduce)
  have hcall : sync.IsCall f := ⟨rfl, .inl rfl, .inr (by decide)⟩
  have hroute : Call.route sync.origin f.callId =
      .ok (⟨.fast, .smc32, .tsp, 0x2000⟩, .tsp (.arithmetic .add)) := by
    rw [Frame.callId_calling]
    rfl
  have hsame : f.SameLowerHalves g := .calling 0x401 0xb2002000 (by decide) rfl rfl
  have idle : (fresh .el3).phase = .idle := rfl
  obtain ⟨-, -, hiff⟩ :=
    narrow_call_jumps_to_all_of_x1 idle hcall hroute rfl hsame (⟨[]⟩ : InterruptQueue)
  refine ⟨hresult, by decide +zetaReduce, hiff.mpr ?_⟩
  intro event hresult' hjumps
  cases hresult.symm.trans hresult'
  rcases hjumps with h | h <;> cases h

/-- A 32-bit call suspends the core.  The lower half of x1 is zero in both frames, and
one of them goes on after the call, and the other at what is in the upper half. -/
theorem narrow_call_jumps_to_upper_half :
    let f := Frame.calling 0x401 0xb2000005 { x1 := 0x100000000 }
    let g := Frame.calling 0x401 0xb2000005 {}
    let sync : TrapVector := ⟨.lowerAArch64, .synchronous⟩
    let a := (fresh .el3).handle sync f (⟨[]⟩ : InterruptQueue)
    let b := (fresh .el3).handle sync g (⟨[]⟩ : InterruptQueue)
    sync.IsCall f ∧ f.SameLowerHalves g ∧
      Call.route sync.origin f.callId = .ok (⟨.fast, .smc32, .tsp, 5⟩, .tsp .cpuSuspend) ∧
      a.result = .ok (.completed .suspendDone) ∧ b.result = .ok (.completed .suspendDone) ∧
      a.frame.elr = 0x100000000 ∧ b.frame.elr = 0x1000 := by
  intro f g sync a b
  refine ⟨⟨rfl, .inl rfl, .inr (by decide)⟩, .calling 0x401 0xb2000005 (by decide) rfl rfl, ?_, ?_,
    ?_, by decide +zetaReduce, by decide +zetaReduce⟩
  · rw [Frame.callId_calling]
    rfl
  · exact Response.toOption_result_eq_some_iff.mp (by decide +zetaReduce)
  · exact Response.toOption_result_eq_some_iff.mp (by decide +zetaReduce)

end Core

end SecureMonitor
