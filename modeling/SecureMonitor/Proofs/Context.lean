/-
SecureMonitor/Proofs/Context.lean

A monitor decides by the call and not by the context it is made in.  Of a frame
it looks at

    ESR bits 31:26    the class of the exception
    SCR bit 0         the world
    x0 to x3          the identifier and its arguments

and at nothing else: not at the rest of the syndrome and of the secure
configuration, the saved state, the address, the stack pointers, x4 to x30.
Two runs whose traps agree in these parts (`SameCall`) come to the same from
trap to trap.  In between they may have parked different callers.  The callers
agree in their world, and their answer is written over the registers that a
later decision looks at, so they agree again when they are taken out.
-/
import SecureMonitor.Interrupt.Accounted
import SecureMonitor.Interrupt.Queue
import SecureMonitor.Proofs.Resemblance

namespace SecureMonitor

/-! ### The part that is looked at -/

/-- Two traps on the same vector that agree in all that a monitor looks at. -/
structure SameCall (t u : TrapVector × Frame) : Prop where
  vector : t.1 = u.1
  exceptionClass : field t.2.esr 26 6 = field u.2.esr 26 6
  world : SecureConfig.has t.2.scr .ns = SecureConfig.has u.2.scr .ns
  callId : t.2.arg 0 = u.2.arg 0
  operands : t.2.operands = u.2.operands

/-- Two contexts are of the same world. -/
def Frame.SameWorld (f g : Frame) : Prop := SecureConfig.world f.scr = SecureConfig.world g.scr

theorem Frame.lasting_sameWorld : Frame.Lasting Frame.SameWorld where
  jump _ h := h
  enter w _ _ _ := by
    simp only [SameWorld, entering, SecureConfig.world_withWorld]

/-- What a trap is depends on the class of its exception alone. -/
theorem TrapVector.disposition_congr (v : TrapVector) {esr esr' : UInt64}
    (h : Syndrome.exceptionClass esr = Syndrome.exceptionClass esr') :
    v.disposition esr = v.disposition esr' := by
  simp only [disposition, h]

theorem SecureConfig.world_eq_iff {scr scr' : UInt64} :
    world scr = world scr' ↔ has scr .ns = has scr' .ns := by
  simp only [world]
  cases has scr .ns <;> cases has scr' .ns <;> simp

theorem SameCall.askAlike {t u : TrapVector × Frame} (h : SameCall t u) :
    AskAlike Frame.SameWorld t u := by
  have hworld := SecureConfig.world_eq_iff.mpr h.world
  have hroute : Call.route t.1.origin t.2.callId = Call.route t.1.origin u.2.callId :=
    congrArg (Call.route t.1.origin) h.callId
  exact ⟨h.vector, t.1.disposition_congr h.exceptionClass, hroute, h.operands, hworld, hworld⟩

/-! ### Runs -/

variable {γ : Type} [InterruptController γ]

/-- Two responses with the same result, whose frames agree in x0 to x3 and in
their world. -/
structure Response.DecidedAlike (r s : Response γ) : Prop where
  result : r.result = s.result
  x0 : r.frame.arg 0 = s.frame.arg 0
  operands : r.frame.operands = s.frame.operands
  world : SecureConfig.has r.frame.scr .ns = SecureConfig.has s.frame.scr .ns

namespace Core

variable {c d : Core} {v : TrapVector} {f g : Frame}

theorem Resembles.decidedAlike (h : Resembles Frame.SameWorld c d)
    (hcall : SameCall (v, f) (v, g)) (controller : γ) :
    (c.handle v f controller).toResponse.DecidedAlike (d.handle v g controller).toResponse := by
  obtain ⟨-, hask⟩ := hcall.askAlike
  have hresult := (h.handle Frame.lasting_sameWorld hask controller).1
  rcases h.frames Frame.lasting_sameWorld hask controller with
    ⟨p, q, x0, results, hctx, hp, hq⟩ | ⟨hf, hg, -⟩
  · -- the same answer, over contexts of the same world
    refine ⟨hresult, ?_, ?_, ?_⟩
    · rw [hp, hq, Frame.arg_writeReturn_zero, Frame.arg_writeReturn_zero]
    · rw [hp, hq, Frame.operands_writeReturn, Frame.operands_writeReturn]
    · rw [hp, hq]
      exact SecureConfig.world_eq_iff.mp hctx
  · -- the frames that trapped
    refine ⟨hresult, ?_, ?_, ?_⟩
    · rw [hf, hg]
      exact hcall.callId
    · rw [hf, hg]
      exact hcall.operands
    · rw [hf, hg]
      exact hcall.world

/-- Decisions ignore the context.  Take a monitor at either level, whatever
applets it hosts, and two lists of traps that agree, trap by trap, in vector,
exception class, world and x0 to x3.  The two runs give the same result to each
trap, fatal ones included, and go on with frames that agree in x0 to x3 and in
their world; and after any number of traps the core has come as far in both, its
services are in the same state, a caller is parked in both or in neither, and
the same interrupts have been acknowledged and completed. -/
theorem decisions_ignore_context (level : Level) (applets : List Applet) (device : γ)
    {traps others : List (TrapVector × Frame)} (h : List.Forall₂ SameCall traps others) :
    let core := hosting level applets
    let account : Accounted γ := { device := device }
    List.Forall₂ Response.DecidedAlike (core.responses account traps)
        (core.responses account others) ∧
      ∀ n,
        let c := core.coreAfter account (traps.take n)
        let d := core.coreAfter account (others.take n)
        c.phase = d.phase ∧ c.services = d.services ∧ c.parked.isSome = d.parked.isSome ∧
          core.controllerAfter account (traps.take n) =
            core.controllerAfter account (others.take n) := by
  intro core account
  have hstart : Resembles Frame.SameWorld core core :=
    resembles_refl_of_unparked (parked_hosting level applets)
  refine ⟨?_, ?_⟩
  · exact hstart.responses Frame.lasting_sameWorld (fun _ _ => SameCall.askAlike)
      (fun controller h hcall => h.decidedAlike hcall controller) h account
  · intro n
    have hask := (List.forall₂_take n h).imp fun _ _ => SameCall.askAlike
    obtain ⟨hcontroller, hcore⟩ := hstart.run Frame.lasting_sameWorld hask account
    exact ⟨hcore.phase, hcore.services, hcore.isSome_parked, hcontroller⟩

/-- An applet is entered and left twice, with an interrupt in between, the
second time from contexts that are different throughout.  Different callers are
parked, and that is all. -/
theorem decisions_ignore_context_elsewhere :
    let core := hosting .el3 [⟨0x0e200000, 0x0e300000⟩]
    let sync : TrapVector := ⟨.lowerAArch64, .synchronous⟩
    let traps : List (TrapVector × Frame) :=
      [(sync, Frame.calling 0x401 0xbd000001 {}), (⟨.lowerAArch64, .irq⟩, Frame.calling 0x400 0 {}),
        (sync, Frame.calling 0x400 0xbd000000 { x1 := 42 })]
    let elsewhere := fun f : Frame =>
      { f with elr := 0x2000, spsr := 0x3c5, scr := f.scr + 0x30, esr := 0x5e001234, spEl1 := 9 }
    let others := traps.map fun t => (t.1, elsewhere t.2)
    let account : Accounted InterruptQueue := { device := ⟨[some 27]⟩ }
    List.Forall₂ SameCall traps others ∧
      List.Forall₂ Response.DecidedAlike (core.responses account traps)
        (core.responses account others) ∧
      (core.coreAfter account (traps.take 1)).parked.map (·.elr) = some 0x1000 ∧
      (core.coreAfter account (others.take 1)).parked.map (·.elr) = some 0x2000 ∧
      (core.controllerAfter account (others.take 3)).completed = [27] := by
  intro core sync traps elsewhere others account
  have hsame : List.Forall₂ SameCall traps others :=
    .cons ⟨rfl, by decide, by decide, rfl, rfl⟩ (.cons ⟨rfl, by decide, by decide, rfl, rfl⟩
      (.cons ⟨rfl, by decide, by decide, rfl, rfl⟩ .nil))
  obtain ⟨hresponses, hstates⟩ := decisions_ignore_context .el3 [⟨0x0e200000, 0x0e300000⟩]
    (⟨[some 27]⟩ : InterruptQueue) hsame
  obtain ⟨-, -, -, haccount⟩ := hstates 3
  refine ⟨hsame, hresponses, ?_, ?_, ?_⟩
  · decide +zetaReduce
  · decide +zetaReduce
  · rw [← haccount]
    decide +zetaReduce

end Core

end SecureMonitor
