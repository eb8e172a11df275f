/-
SecureMonitor/Proofs/AppletEntry.lean

The state in which an applet is entered.  An applet is 64-bit code, and its
first frame has two parts that have to agree on that:

    SPSR   made anew      64-bit code at EL1 on its own stack, all masked
    SCR    the caller's   secure, and otherwise as it was at the call

The bit of the secure configuration that sets the next lower level to 64-bit
code is one of those that stay.  It is the caller's, so the core can go on with
the applet if the caller ran below a 64-bit configuration
(`StartsApplet.returnsLegally_iff`), and cannot if it ran below a 32-bit one.
32-bit code can do either: it may call applets, with 32-bit calls.
-/
import SecureMonitor.Interrupt.Queue
import SecureMonitor.Proofs.WorldSwitch

namespace SecureMonitor

/-! ### Frames to return to -/

namespace Frame

/-- The frame is that of 64-bit code at EL1 on the stack of EL1, with debug
exceptions, system errors, interrupts and fast interrupts masked. -/
structure AtEl1hMasked (g : Frame) : Prop where
  aarch64 : SavedState.isAArch32 g.spsr = false
  mode : SavedState.mode g.spsr = 0b0101
  debug : SavedState.masksDebug g.spsr = true
  serror : SavedState.masksSError g.spsr = true
  irq : SavedState.masksIrq g.spsr = true
  fiq : SavedState.masksFiq g.spsr = true

/-- An exception return to the frame is legal as far as its width goes: 64-bit
code below the monitor takes a configuration that sets the next lower level to
64-bit code. -/
def ReturnsLegally (g : Frame) : Prop :=
  g.privilege ≠ .el3 → SavedState.isAArch32 g.spsr = false →
    SecureConfig.has g.scr .rw = true

namespace StartsApplet

variable {f g : Frame} {x : Applet}

theorem atEl1hMasked (h : f.StartsApplet x g) : g.AtEl1hMasked := by
  have hspsr := h.spsr
  constructor
  all_goals
    rw [hspsr]
    decide

theorem returnsToEl1h (h : f.StartsApplet x g) : SavedState.returnsToEl1h g.spsr = true := by
  rw [h.spsr]
  decide

/-- The stack of EL1 is the one in use, and it is the applet's. -/
theorem stackPointer_eq (h : f.StartsApplet x g) : g.stackPointer = x.stack := by
  rw [stackPointer, if_pos h.returnsToEl1h]
  exact h.spEl1

theorem privilege_eq (h : f.StartsApplet x g) : g.privilege = .el1 :=
  SavedState.privilege_of_returnsToEl1h h.returnsToEl1h

/-- Of the flags, the world alone is written. -/
theorem has_eq (h : f.StartsApplet x g) {flag : SecureConfig.Flag} (hflag : flag ≠ .ns) :
    SecureConfig.has g.scr flag = SecureConfig.has f.scr flag := by
  apply h.scr
  -- no other flag has the position of the world
  cases flag with
  | ns => exact absurd rfl hflag
  | _ => decide

/-- So the caller's configuration decides whether the applet can be gone on with. -/
theorem returnsLegally_iff (h : f.StartsApplet x g) :
    g.ReturnsLegally ↔ SecureConfig.has f.scr .rw = true := by
  rw [← h.has_eq (by decide : SecureConfig.Flag.rw ≠ .ns)]
  constructor
  · intro hlegal
    apply hlegal
    · rw [h.privilege_eq]
      decide
    · exact h.atEl1hMasked.aarch64
  · intro hwide _ _
    exact hwide

end StartsApplet

end Frame

/-! ### Calls to applets -/

variable {γ : Type} [InterruptController γ]

namespace Core

variable {core : Core} {v : TrapVector} {f : Frame} {id : CallId} {slot : Fin appletSlots}
  {event : Event}

/-- A call to an applet that completes is a call from below, and the core goes on
with the first frame of the applet in the slot. -/
theorem Handles.starts_applet {controller : γ} {step : Step γ}
    (h : core.Handles v f controller step)
    (routed : Call.route v.origin f.callId = .ok (id, .custom (.invoke slot)))
    (completed : step.result = .ok (.completed event)) :
    v.IsCall f ∧ ∃ x, core.services.applets.get? slot = some x ∧ f.StartsApplet x step.frame := by
  cases h with
  | ignored => cases completed
  | fatal => cases completed
  | forwarded => cases completed
  | refused => cases completed
  | completed _ found routed' served =>
    cases routed.symm.trans routed'
    cases served with
    | invoke _ _ _ registered =>
      exact ⟨TrapVector.isCall_iff.mpr found, _, registered, f.startsApplet_entering _⟩

/-- How applets are entered.  On any core that a monitor at EL3 comes to, let a call
to an applet complete.  It came from 64-bit code, or it is a 32-bit call from 32-bit
code.  The applet in the slot is registered, and the core goes on at its entry, in
64-bit code at EL1, with all exceptions masked and on the stack of the applet.  The
secure configuration is that of the call in every flag but the world.  So the
return to the applet is legal exactly if the next lower level was set to 64-bit
code when the call was made. -/
theorem applet_entry_keeps_callers_width (h : Reachable γ .el3 core) (controller : γ)
    (routed : Call.route v.origin f.callId = .ok (id, .custom (.invoke slot)))
    (completed : (core.handle v f controller).result = .ok (.completed event)) :
    let g := (core.handle v f controller).frame
    (v.origin = .lowerAArch64 ∨ v.origin = .lowerAArch32 ∧ id.width = .smc32) ∧
      ∃ x, core.services.applets.get? slot = some x ∧ g.elr = x.entry ∧ g.AtEl1hMasked ∧
        g.stackPointer = x.stack ∧ g.privilege = .el1 ∧
        SecureConfig.has g.scr .ns = false ∧
        (∀ flag, flag ≠ .ns → SecureConfig.has g.scr flag = SecureConfig.has f.scr flag) ∧
        (g.ReturnsLegally ↔ SecureConfig.has f.scr .rw = true) := by
  intro g
  have hstep := handles_handle h.sound.settled v f controller
  obtain ⟨hcall, x, hx, hstarts⟩ := hstep.starts_applet routed completed
  refine ⟨?_, x, hx, hstarts.elr, hstarts.atEl1hMasked, hstarts.stackPointer_eq,
    hstarts.privilege_eq, hstarts.secure, ?_, hstarts.returnsLegally_iff⟩
  · rcases hcall.origin with horigin | horigin
    · exact .inl horigin
    · rw [horigin] at routed
      exact .inr ⟨horigin, Call.width_of_route routed⟩
  · intro flag hflag
    exact hstarts.has_eq hflag

/-- The frame in which 32-bit code calls the first applet, with the given secure
configuration. -/
def narrowInvocation (scr : UInt64) : Frame :=
  { Frame.calling scr 0xbd000001 { x1 := 7 } with spsr := 0x1d3, esr := 0x4e000000 }

theorem route_narrowInvocation (scr : UInt64) :
    Call.route .lowerAArch32 (narrowInvocation scr).callId =
      .ok (⟨.fast, .smc32, .custom, 1⟩, .custom (.invoke ⟨0, by decide⟩)) := by
  have hid : (narrowInvocation scr).callId = 0xbd000001 := Frame.callId_calling ..
  rw [hid]
  rfl

/-- 32-bit code that runs below a 64-bit configuration enters an applet, and the core
can go on with it. -/
theorem applet_entry_keeps_callers_width_wide :
    let core := ((fresh .el3).register ⟨0x0e200000, 0x0e300000⟩).2
    let step := core.handle ⟨.lowerAArch32, .synchronous⟩ (narrowInvocation 0x401)
      (⟨[]⟩ : InterruptQueue)
    Reachable InterruptQueue .el3 core ∧
      Call.route .lowerAArch32 (narrowInvocation 0x401).callId =
        .ok (⟨.fast, .smc32, .custom, 1⟩, .custom (.invoke ⟨0, by decide⟩)) ∧
      step.result = .ok (.completed .customEntryDone) ∧ step.frame.AtEl1hMasked ∧
      step.frame.ReturnsLegally := by
  intro core step
  have hreachable : Reachable InterruptQueue .el3 core := .register .fresh _
  have hroute := route_narrowInvocation 0x401
  have hresult : step.result = .ok (.completed .customEntryDone) :=
    Response.toOption_result_eq_some_iff.mp (by decide +zetaReduce)
  obtain ⟨-, x, -, -, hmasked, -, -, -, -, hlegal⟩ := applet_entry_keeps_callers_width
    (v := ⟨.lowerAArch32, .synchronous⟩) hreachable (⟨[]⟩ : InterruptQueue) hroute hresult
  exact ⟨hreachable, hroute, hresult, hmasked, hlegal.mpr (by decide)⟩

/-- 32-bit code that runs below a 32-bit configuration does so as well, and there the
core cannot go on: the frame is one of 64-bit code, and the next lower level is still
set to 32-bit code. -/
theorem applet_entered_below_narrow_configuration :
    let core := ((fresh .el3).register ⟨0x0e200000, 0x0e300000⟩).2
    let f := narrowInvocation 0x1
    let sync : TrapVector := ⟨.lowerAArch32, .synchronous⟩
    let step := core.handle sync f (⟨[]⟩ : InterruptQueue)
    Reachable InterruptQueue .el3 core ∧ sync.IsCall f ∧
      Call.route sync.origin f.callId =
        .ok (⟨.fast, .smc32, .custom, 1⟩, .custom (.invoke ⟨0, by decide⟩)) ∧
      step.result = .ok (.completed .customEntryDone) ∧
      SavedState.isAArch32 step.frame.spsr = false ∧ step.frame.privilege = .el1 ∧
      SecureConfig.has step.frame.scr .rw = false ∧ ¬step.frame.ReturnsLegally := by
  intro core f sync step
  have hwide : SavedState.isAArch32 step.frame.spsr = false := by decide +zetaReduce
  have hlevel : step.frame.privilege = .el1 := by decide +zetaReduce
  have hnarrow : SecureConfig.has step.frame.scr .rw = false := by decide +zetaReduce
  have hcall : sync.IsCall f := ⟨rfl, .inr rfl, .inl (by decide)⟩
  refine ⟨.register .fresh _, hcall, route_narrowInvocation 0x1, ?_, hwide, hlevel, hnarrow, ?_⟩
  · exact Response.toOption_result_eq_some_iff.mp (by decide +zetaReduce)
  · intro hlegal
    have hset := hlegal (by rw [hlevel]; decide) hwide
    exact nomatch hset.symm.trans hnarrow

end Core

end SecureMonitor
