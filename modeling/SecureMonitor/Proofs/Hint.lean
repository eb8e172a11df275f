/-
SecureMonitor/Proofs/Hint.lean

The hint in a fast call is for nobody in the monitor.  Turning it over, in any
of the fast calls of a run, turns nothing else over:

    read in x0      the same identifier, or the same fault (`decode_flip`)
    written to x0   an answer over the hint, in whatever frame (`UpToHint`)

In between, the hint is kept in one place only, the frame of a parked caller,
and is overwritten there when the caller is restored.  So the two runs are kept
together by cores that resemble each other up to the hint of that frame.
-/
import SecureMonitor.Interrupt.Accounted
import SecureMonitor.Interrupt.Queue
import SecureMonitor.Proofs.Identifier
import SecureMonitor.Proofs.Resemblance

namespace SecureMonitor

/-! ### Identifiers -/

/-- Each field of an exclusive or is that of the fields. -/
theorem field_xor (a b : UInt64) (lo width : Nat) :
    field (a ^^^ b) lo width = field a lo width ^^^ field b lo width := by
  simp only [field, UInt64.toNat_xor, Nat.xor_div_two_pow, Nat.xor_mod_two_pow]

namespace CallId

variable {raw : UInt64}

/-- A field that the hint has no part in is kept when the hint is turned over. -/
theorem field_xor_hint {lo width : Nat} (h : field hint lo width = 0) :
    field (raw ^^^ hint) lo width = field raw lo width := by
  rw [field_xor, h, Nat.xor_zero]

theorem bit_xor_hint {i : Nat} (h : field hint i 1 = 0) : bit (raw ^^^ hint) i = bit raw i := by
  rw [bit, bit, field_xor_hint h]

theorem reservedBitsSet_of_fast (h : bit raw 31 = true) :
    reservedBitsSet raw = (field raw 17 7 != 0) := by
  have hfast : (callTypeOf raw == .yielding) = false := by
    rw [callTypeOf, if_pos h]
    rfl
  rw [reservedBitsSet, hfast, Bool.false_and, Bool.or_false]

/-- A fast call is read alike with the hint and without it, faults included. -/
theorem decode_flip (h : bit raw 31 = true) : decode (raw ^^^ hint) = decode raw := by
  -- none of the fields of a fast call has bit 16 in it
  have hfast : bit (raw ^^^ hint) 31 = bit raw 31 := bit_xor_hint (by decide)
  have hupper : upperBitsSet (raw ^^^ hint) = upperBitsSet raw := by
    rw [upperBitsSet, upperBitsSet, field_xor_hint (by decide)]
  have hreserved : reservedBitsSet (raw ^^^ hint) = reservedBitsSet raw := by
    rw [reservedBitsSet_of_fast h, reservedBitsSet_of_fast (hfast.trans h),
      field_xor_hint (by decide)]
  have howner : ownerNumber (raw ^^^ hint) = ownerNumber raw := field_xor_hint (by decide)
  have htype : callTypeOf (raw ^^^ hint) = callTypeOf raw := by
    rw [callTypeOf, callTypeOf, hfast]
  have hwidth : widthOf (raw ^^^ hint) = widthOf raw := by
    rw [widthOf, widthOf, bit_xor_hint (by decide)]
  have hnumber : numberOf (raw ^^^ hint) = numberOf raw := by
    rw [numberOf, numberOf, field_xor_hint (by decide)]
  simp only [decode, hupper, hreserved, howner, htype, hwidth, hnumber]

end CallId

theorem Call.route_flip {raw : UInt64} (h : bit raw 31 = true) (origin : TrapOrigin) :
    route origin (raw ^^^ CallId.hint) = route origin raw := by
  simp only [route, CallId.decode_flip h]

/-! ### Frames -/

namespace Frame

/-- There is an x0 to write to. -/
theorem registerCount_pos : 0 < registerCount := by decide

/-- The frame with bit 16 of x0 turned over. -/
def flipHint (f : Frame) : Frame :=
  { f with regs := f.regs.set 0 (f.callId ^^^ CallId.hint) registerCount_pos }

/-- The frames are the same but, perhaps, for bit 16 of x0. -/
def UpToHint (f g : Frame) : Prop := g = f ∨ g = f.flipHint

@[simp] theorem callId_flipHint (f : Frame) : f.flipHint.callId = f.callId ^^^ CallId.hint := by
  simp [callId, arg, flipHint]

@[simp] theorem operands_flipHint (f : Frame) : f.flipHint.operands = f.operands := by
  simp [operands, arg, flipHint]

/-- An answer is written over the hint. -/
theorem writeReturn_flipHint (f : Frame) (x0 : UInt64) (results : Operands) :
    f.flipHint.writeReturn x0 results = f.writeReturn x0 results := by
  simp [writeReturn, flipHint]

theorem UpToHint.writeReturn_eq {f g : Frame} (h : f.UpToHint g) (x0 : UInt64)
    (results : Operands) : f.writeReturn x0 results = g.writeReturn x0 results := by
  rcases h with rfl | rfl
  · rfl
  · exact (writeReturn_flipHint f x0 results).symm

/-- Going on elsewhere leaves x0 alone, and an applet starts from zeros. -/
theorem lasting_upToHint : Lasting UpToHint where
  jump entry h := by
    rcases h with rfl | rfl
    · exact .inl rfl
    · exact .inr rfl
  enter w entry stack h := by
    rcases h with rfl | rfl
    · exact .inl rfl
    · exact .inl rfl

end Frame

/-! ### Traps -/

/-- The same trap, or a fast call with its hint turned over. -/
inductive Rehinted : TrapVector × Frame → TrapVector × Frame → Prop
  | same (t : TrapVector × Frame) : Rehinted t t
  | flipped {v : TrapVector} {f : Frame} (call : v.IsCall f) (fast : bit f.callId 31 = true) :
      Rehinted (v, f) (v, f.flipHint)

theorem Rehinted.askAlike {t u : TrapVector × Frame} (h : Rehinted t u) :
    AskAlike Frame.UpToHint t u := by
  cases h with
  | same => exact ⟨rfl, rfl, rfl, rfl, rfl, .inl rfl⟩
  | @flipped v f _ fast =>
    have hroute : Call.route v.origin f.callId = Call.route v.origin f.flipHint.callId := by
      rw [Frame.callId_flipHint, Call.route_flip fast]
    exact ⟨rfl, rfl, hroute, f.operands_flipHint.symm, rfl, .inr rfl⟩

/-- Only a call has a hint to turn over. -/
theorem Rehinted.eq_of_not_call {v : TrapVector} {f g : Frame} (h : Rehinted (v, f) (v, g))
    (hcall : v.disposition f.esr ≠ .call) : g = f := by
  cases h with
  | same => rfl
  | flipped call => exact absurd (TrapVector.isCall_iff.mp call) hcall

/-! ### Runs -/

variable {γ : Type} [InterruptController γ]

/-- Two responses with the same result and, unless that is an error, the same frame. -/
structure Response.SameAnswer (r s : Response γ) : Prop where
  result : r.result = s.result
  frame : ∀ outcome, r.result = .ok outcome → r.frame = s.frame

namespace Core

variable {c d : Core} {v : TrapVector} {f g : Frame}

/-- One trap with its hint turned over, or not. -/
theorem Resembles.sameAnswer (h : Resembles Frame.UpToHint c d)
    (hrehinted : Rehinted (v, f) (v, g)) (controller : γ) :
    (c.handle v f controller).toResponse.SameAnswer (d.handle v g controller).toResponse := by
  obtain ⟨-, hask⟩ := hrehinted.askAlike
  have hresult := (h.handle Frame.lasting_upToHint hask controller).1
  refine ⟨hresult, ?_⟩
  intro outcome hok
  rcases h.frames Frame.lasting_upToHint hask controller with
    ⟨p, q, x0, results, hctx, hp, hq⟩ | ⟨hf, hg, hanswer⟩
  · -- the same answer, over frames that differ only where it is written
    rw [hp, hq]
    exact hctx.writeReturn_eq x0 results
  · -- a core that has halted comes to no outcome, and another one was not called
    have awake : c.phase ≠ .halted := by
      intro halted
      rw [handle_of_halted halted] at hok
      exact nomatch hok
    have hcall : v.disposition f.esr ≠ .call := fun found => hanswer ⟨awake, found⟩
    rw [hf, hg, hrehinted.eq_of_not_call hcall]

/-- The hint is transparent.  Take a monitor at either level, whatever applets
it hosts, and turn the hint over in any of the fast calls of a run.  Each trap
has the same result as before and, unless that is an error, goes on with the
same frame; and after any number of traps the core has come as far, its services
are in the same state, the same interrupts have been acknowledged and completed,
and a caller is parked in both runs or in neither, in frames that are the same
up to bit 16 of x0. -/
theorem hint_is_transparent (level : Level) (applets : List Applet) (device : γ)
    {traps others : List (TrapVector × Frame)} (h : List.Forall₂ Rehinted traps others) :
    let core := hosting level applets
    let account : Accounted γ := { device := device }
    List.Forall₂ Response.SameAnswer (core.responses account traps)
        (core.responses account others) ∧
      ∀ n,
        let c := core.coreAfter account (traps.take n)
        let d := core.coreAfter account (others.take n)
        c.phase = d.phase ∧ c.services = d.services ∧
          Option.Rel Frame.UpToHint c.parked d.parked ∧
          core.controllerAfter account (traps.take n) =
            core.controllerAfter account (others.take n) := by
  intro core account
  have hstart : Resembles Frame.UpToHint core core :=
    resembles_refl_of_unparked (parked_hosting level applets)
  refine ⟨?_, ?_⟩
  · exact hstart.responses Frame.lasting_upToHint (fun _ _ => Rehinted.askAlike)
      (fun controller h htrap => h.sameAnswer htrap controller) h account
  · intro n
    have hask := (List.forall₂_take n h).imp fun _ _ => Rehinted.askAlike
    obtain ⟨hcontroller, hcore⟩ := hstart.run Frame.lasting_upToHint hask account
    exact ⟨hcore.phase, hcore.services, hcore.parked, hcontroller⟩

/-- An applet is entered by a call with the hint and left again, with an
interrupt in between.  The caller is parked with the hint in its x0, and comes
back without a trace of it. -/
theorem hint_is_transparent_parked :
    let core := hosting .el3 [⟨0x0e200000, 0x0e300000⟩]
    let sync : TrapVector := ⟨.lowerAArch64, .synchronous⟩
    let caller := Frame.calling 0x401 0xbd000001 {}
    let leave := (sync, Frame.calling 0x400 0xbd000000 { x1 := 42 })
    let irq : TrapVector × Frame := (⟨.lowerAArch64, .irq⟩, Frame.calling 0x400 0 {})
    let traps := [(sync, caller), irq, leave]
    let others := [(sync, caller.flipHint), irq, leave]
    let account : Accounted InterruptQueue := { device := ⟨[some 27]⟩ }
    List.Forall₂ Rehinted traps others ∧
      List.Forall₂ Response.SameAnswer (core.responses account traps)
        (core.responses account others) ∧
      (core.coreAfter account (traps.take 1)).parked.map (·.callId) = some 0xbd000001 ∧
      (core.coreAfter account (others.take 1)).parked.map (·.callId) = some 0xbd010001 ∧
      (core.controllerAfter account (others.take 3)).completed = [27] := by
  intro core sync caller leave irq traps others account
  have hrehinted : List.Forall₂ Rehinted traps others :=
    .cons (.flipped ⟨rfl, .inl rfl, by decide⟩ (by decide)) (.cons (.same irq)
      (.cons (.same leave) .nil))
  obtain ⟨hresponses, hstates⟩ := hint_is_transparent .el3 [⟨0x0e200000, 0x0e300000⟩]
    (⟨[some 27]⟩ : InterruptQueue) hrehinted
  obtain ⟨-, -, -, haccount⟩ := hstates 3
  refine ⟨hrehinted, hresponses, ?_, ?_, ?_⟩
  · decide +zetaReduce
  · decide +zetaReduce
  · rw [← haccount]
    decide +zetaReduce

end Core

end SecureMonitor
