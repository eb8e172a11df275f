/-
SecureMonitor/Proofs/WorldSwitch.lean

The gate between the worlds.  A trap that comes from the non-secure world
and goes on in the secure one has called an applet that is registered, and
the applet starts on a fresh frame: at its own entry, on its own stack, with
all exceptions masked, and with no more of its caller than x1 to x3 and the
secure configuration, world apart (`StartsApplet`).  A trap that goes the
other way has left an applet, and its caller goes on as it was parked.

Nothing else changes worlds, because nothing else replaces a frame: every
other answer is written into the frame that trapped.
-/
import SecureMonitor.Interrupt.Queue
import SecureMonitor.Proofs.Run

namespace SecureMonitor

/-! ### The identifier of an applet call -/

namespace AppletFunction

theorem ofNumber?_eq_leave {n : Nat} (h : ofNumber? n = some leave) : n = 0 := by
  cases n with
  | zero => rfl
  | succ n =>
    simp only [ofNumber?] at h
    split at h <;> cases h

theorem ofNumber?_eq_invoke {n : Nat} {slot : Fin appletSlots}
    (h : ofNumber? n = some (invoke slot)) : n = slot + 1 := by
  cases n with
  | zero => cases h
  | succ n =>
    simp only [ofNumber?] at h
    split at h <;> cases h
    rfl

end AppletFunction

theorem Call.route_custom {origin : TrapOrigin} {raw : UInt64} {id : CallId}
    {fn : AppletFunction} (h : Call.route origin raw = .ok (id, .custom fn)) :
    CallId.decode raw = .ok id ∧ id.owner = .custom ∧
      AppletFunction.ofNumber? id.number.toNat = some fn := by
  obtain ⟨howner, hnumber⟩ := Call.ofNumber?_of_route h
  obtain ⟨found, hfound, ⟨⟩⟩ := Option.map_eq_some_iff.mp hnumber
  exact ⟨(Call.route_eq_ok h).1, howner, hfound⟩

/-! ### The first frame of an applet -/

/-- `g` is a fresh frame on which applet `x` starts when it is called from `f`. -/
structure Frame.StartsApplet (f : Frame) (x : Applet) (g : Frame) : Prop where
  elr : g.elr = x.entry
  /-- At EL1 on its own stack, with debug exceptions, system errors,
  interrupts and fast interrupts masked. -/
  spsr : g.spsr = 0x3c5
  secure : bit g.scr 0 = false
  scr : ∀ i, i ≠ 0 → bit g.scr i = bit f.scr i
  esr : g.esr = 0
  spLower : g.spLower = 0
  spEl1 : g.spEl1 = x.stack
  x0 : g.arg 0 = 0xbd000000
  operands : g.operands = f.operands
  blank : ∀ n, 4 ≤ n → g.arg n = 0

theorem Frame.startsApplet_entering (f : Frame) (x : Applet) :
    f.StartsApplet x
      ((f.entering .secure x.entry x.stack).writeReturn Event.customEntryDone.value
        f.operands) where
  elr := rfl
  spsr := rfl
  secure := SecureConfig.world_eq_secure_iff.mp (SecureConfig.world_withWorld .secure f.scr)
  scr _ h := SecureConfig.bit_withWorld .secure f.scr h
  esr := rfl
  spLower := rfl
  spEl1 := rfl
  x0 := arg_writeReturn_zero ..
  operands := operands_writeReturn ..
  blank n h := by
    rw [arg_writeReturn_of_ge _ _ _ h]
    simp only [arg, entering, Vector.getElem?_replicate]
    split <;> rfl

/-! ### Through the gate -/

variable {γ : Type} [InterruptController γ]

namespace Core

variable {core : Core} {v : TrapVector} {f : Frame} {controller : γ} {step : Step γ}

/-- Only a completed applet call can go on with another secure
configuration; all else goes on with the frame that trapped, at most with an
answer in it or moved to another address. -/
theorem Handles.scr_eq_or_completes (h : core.Handles v f controller step) :
    step.frame.scr = f.scr ∨
      ∃ id function g core', Call.route v.origin f.callId = .ok (id, .custom function) ∧
        step.result = .ok (.completed .customEntryDone) ∧ step.frame = g ∧
        core.Completes f id (.custom function) .customEntryDone g core' := by
  cases h with
  | ignored => exact .inl rfl
  | fatal => exact .inl rfl
  | forwarded => exact .inl rfl
  | refused => exact .inl rfl
  | completed _ _ routed served =>
    cases served with
    | tsp => exact .inl (Frame.scr_goOn ..)
    | optee => exact .inl rfl
    | invoke level caller free registered =>
      exact .inr ⟨_, _, _, _, routed, rfl, rfl, .invoke level caller free registered⟩
    | leave level world parked =>
      exact .inr ⟨_, _, _, _, routed, rfl, rfl, .leave level world parked⟩

/-- A step into the secure world is a call to an applet. -/
theorem Handles.into_secure (h : core.Handles v f controller step)
    (hf : SecureConfig.world f.scr = .nonSecure)
    (hg : SecureConfig.world step.frame.scr = .secure) :
    ∃ id slot x, Call.route v.origin f.callId = .ok (id, .custom (.invoke slot)) ∧
      step.result = .ok (.completed .customEntryDone) ∧ core.parked = none ∧
      core.services.applets.get? slot = some x ∧ f.StartsApplet x step.frame := by
  rcases h.scr_eq_or_completes with
    hsame | ⟨id, function, g, core', hroute, hresult, hframe, hserved⟩
  · rw [hsame, hf] at hg
    cases hg
  · rw [hframe]
    cases hserved with
    | invoke _ _ free registered =>
      exact ⟨id, _, _, hroute, hresult, free, registered, f.startsApplet_entering _⟩
    | leave _ world =>
      -- to leave, the caller must be secure already
      rw [hf] at world
      cases world

/-- A step out of the secure world is the way back from an applet. -/
theorem Handles.out_of_secure (h : core.Handles v f controller step)
    (hf : SecureConfig.world f.scr = .secure)
    (hg : SecureConfig.world step.frame.scr = .nonSecure) :
    ∃ id caller, Call.route v.origin f.callId = .ok (id, .custom .leave) ∧
      step.result = .ok (.completed .customEntryDone) ∧ core.parked = some caller ∧
      caller.Answered 0xbd000000 { x1 := f.arg 1 } step.frame := by
  rcases h.scr_eq_or_completes with
    hsame | ⟨id, function, g, core', hroute, hresult, hframe, hserved⟩
  · rw [hsame, hf] at hg
    cases hg
  · rw [hframe]
    cases hserved with
    | invoke _ world =>
      rw [hf] at world
      cases world
    | leave _ _ parked =>
      exact ⟨id, _, hroute, hresult, parked, Frame.answered_writeReturn ..⟩

/-- The gate between the worlds.  On any core that a monitor at EL3 comes
to, and for any trap: if the trap leads from the non-secure world into the
secure one, it is a call of function `n` of the applets, applet `n - 1` is
registered, no caller was parked, and the core goes on with the applet's
first frame.  If it leads back, it is a call of function 0 and the core goes
on with the frame that was parked, but for the answer in x0 to x3.  And a
frame that is parked is always non-secure. -/
theorem world_switch_gate (h : Reachable γ .el3 core) (v : TrapVector) (f : Frame)
    (controller : γ) :
    let step := core.handle v f controller
    (SecureConfig.has f.scr .ns = true → SecureConfig.has step.frame.scr .ns = false →
      step.result = .ok (.completed .customEntryDone) ∧ core.parked = none ∧
        ∃ id n x, CallId.decode f.callId = .ok id ∧ id.owner = .custom ∧
          id.number.toNat = n ∧ 1 ≤ n ∧ n ≤ 8 ∧
          core.services.applets.get? (n - 1) = some x ∧ f.StartsApplet x step.frame) ∧
    (SecureConfig.has f.scr .ns = false → SecureConfig.has step.frame.scr .ns = true →
      step.result = .ok (.completed .customEntryDone) ∧
        ∃ id caller, CallId.decode f.callId = .ok id ∧ id.owner = .custom ∧
          id.number.toNat = 0 ∧ core.parked = some caller ∧
          caller.Answered 0xbd000000 { x1 := f.arg 1 } step.frame) ∧
    ∀ caller, core.parked = some caller → SecureConfig.has caller.scr .ns = true := by
  have hsound := h.sound
  have hstep := handles_handle hsound.settled v f controller
  refine ⟨?_, ?_, ?_⟩
  · intro hf hg
    obtain ⟨id, slot, x, hroute, hresult, hfree, hx, hstarts⟩ :=
      hstep.into_secure (SecureConfig.world_eq_nonSecure_iff.mpr hf)
        (SecureConfig.world_eq_secure_iff.mpr hg)
    obtain ⟨hdecode, howner, hnumber⟩ := Call.route_custom hroute
    have hn := AppletFunction.ofNumber?_eq_invoke hnumber
    have hslot : (slot : Nat) < 8 := slot.isLt
    refine ⟨hresult, hfree, id, slot + 1, x, hdecode, howner, hn, ?_, ?_, hx, hstarts⟩
    · omega
    · omega
  · intro hf hg
    obtain ⟨id, caller, hroute, hresult, hparked, hanswered⟩ :=
      hstep.out_of_secure (SecureConfig.world_eq_secure_iff.mpr hf)
        (SecureConfig.world_eq_nonSecure_iff.mpr hg)
    obtain ⟨hdecode, howner, hnumber⟩ := Call.route_custom hroute
    have hn := AppletFunction.ofNumber?_eq_leave hnumber
    exact ⟨hresult, id, caller, hdecode, howner, hn, hparked, hanswered⟩
  · intro caller hparked
    exact SecureConfig.world_eq_nonSecure_iff.mp (hsound.parked caller hparked).2

/-- A caller that goes through the gate: applet 0 is registered, a call to
it comes in from the non-secure world, and the core goes on in the secure
one. -/
theorem world_switch_gate_open :
    let core := ((fresh .el3).register ⟨0x0e200000, 0x0e300000⟩).2
    let f := Frame.calling 0x401 0xbd000001 { x1 := 7 }
    let step := core.handle ⟨.lowerAArch64, .synchronous⟩ f (⟨[]⟩ : InterruptQueue)
    Reachable InterruptQueue .el3 core ∧ SecureConfig.has f.scr .ns = true ∧
      SecureConfig.has step.frame.scr .ns = false ∧
      step.result = .ok (.completed .customEntryDone) ∧ ∃ x, f.StartsApplet x step.frame := by
  have hreachable : Reachable InterruptQueue .el3
      ((fresh .el3).register ⟨0x0e200000, 0x0e300000⟩).2 := .register .fresh _
  have hns : SecureConfig.has (Frame.calling 0x401 0xbd000001 { x1 := 7 }).scr .ns = true := by
    decide
  have hs : SecureConfig.has ((((fresh .el3).register ⟨0x0e200000, 0x0e300000⟩).2.handle
      ⟨.lowerAArch64, .synchronous⟩ (Frame.calling 0x401 0xbd000001 { x1 := 7 })
      (⟨[]⟩ : InterruptQueue)).frame.scr) .ns = false := by decide
  obtain ⟨hresult, -, id, n, x, -, -, -, -, -, -, hstarts⟩ :=
    (world_switch_gate hreachable _ _ _).1 hns hs
  exact ⟨hreachable, hns, hs, hresult, x, hstarts⟩

end Core

end SecureMonitor
