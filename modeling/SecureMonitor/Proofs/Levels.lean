/-
SecureMonitor/Proofs/Levels.lean

A monitor at EL1 beside one at EL3.  The one at EL1 has no say over the world
that its core is in, so it denies every call to an applet, parks no one, and
answers in the frame that trapped (`Frame.SameContext`).  The one at EL3 may
go back and forth between the worlds with the same calls.

To the other services that makes no difference.  The two cores start out
agreeing but for the applets' part, to which the level belongs, and no trap
sets them further apart; so the other services' calls, the interrupts and the
fatal traps are answered alike, call for call.
-/
import SecureMonitor.Interrupt.Queue
import SecureMonitor.Proofs.Separation

namespace SecureMonitor

/-! ### The same context -/

/-- `g` is the context of `f`, with at most x0 to x3 and the address at which
it goes on changed. -/
structure Frame.SameContext (f g : Frame) : Prop where
  spsr : g.spsr = f.spsr
  scr : g.scr = f.scr
  esr : g.esr = f.esr
  spLower : g.spLower = f.spLower
  spEl1 : g.spEl1 = f.spEl1
  kept : ∀ n, 4 ≤ n → g.arg n = f.arg n

namespace Frame

theorem SameContext.refl (f : Frame) : f.SameContext f :=
  ⟨rfl, rfl, rfl, rfl, rfl, fun _ _ => rfl⟩

theorem sameContext_writeReturn (f : Frame) (x0 : UInt64) (results : Operands) :
    f.SameContext (f.writeReturn x0 results) :=
  ⟨rfl, rfl, rfl, rfl, rfl, fun _ h => arg_writeReturn_of_ge f x0 results h⟩

/-- Going on elsewhere in the same world is no other context. -/
theorem SameContext.of_goOn {f g : Frame} {r : Resume} (h : (f.goOn r).SameContext g) :
    f.SameContext g := by
  cases r with
  | jump entry => exact ⟨h.spsr, h.scr, h.esr, h.spLower, h.spEl1, h.kept⟩
  | _ => exact h

end Frame

/-! ### Applets at EL1 -/

namespace Core

variable {core : Core} {f : Frame} {id : CallId} {fn : AppletFunction}

/-- Whatever the applets reply, they ask for another world. -/
theorem resume_applets_of_el1 {request : Request} {reply : Reply} (hlevel : core.level = .el1)
    (h : core.services.applets.handle fn request = .ok reply) (f : Frame) :
    core.resume f reply.resume = .error (.denied .worldSwitchUnavailable) := by
  cases fn with
  | leave =>
    obtain ⟨-, rfl⟩ := Applets.handle_leave_ok h
    simp [resume, hlevel, Level.canSwitchWorlds]
  | invoke slot =>
    obtain ⟨-, x, -, rfl⟩ := Applets.handle_invoke_ok h
    simp [resume, hlevel, Level.canSwitchWorlds]

/-- An applet call at EL1 is denied, by the applets or else by the core. -/
theorem perform_custom_of_el1 (hlevel : core.level = .el1) (f : Frame) (id : CallId)
    (fn : AppletFunction) :
    ∃ denial, (core.perform f id (.custom fn)).result = .error (.denied denial) := by
  rw [perform_custom]
  cases hserve : core.services.applets.handle fn (core.request f id) with
  | error why =>
    obtain ⟨denial, rfl⟩ := Applets.handle_error hserve
    exact ⟨denial, rfl⟩
  | ok reply =>
    simp only [resume_applets_of_el1 hlevel hserve]
    exact ⟨.worldSwitchUnavailable, rfl⟩

variable {γ : Type} [InterruptController γ] {v : TrapVector} {controller : γ} {step : Step γ}

theorem handle_custom_of_el1 (hlevel : core.level = .el1) (idle : core.phase = .idle)
    (hcall : v.callee? f = some .custom) (controller : γ) :
    ∃ denial, (core.handle v f controller).result = .ok (.refused (.denied denial)) := by
  obtain ⟨found, ⟨id, call⟩, routed, howner⟩ := TrapVector.callee?_eq_some_iff.mp hcall
  cases call with
  | tsp => cases howner
  | optee => cases howner
  | custom fn =>
    obtain ⟨denial, hdenied⟩ := perform_custom_of_el1 hlevel f id fn
    rw [handle_of_unserved idle found routed hdenied]
    exact ⟨denial, rfl⟩

/-- No trap replaces a frame at EL1. -/
theorem Handles.sameContext_of_el1 (h : core.Handles v f controller step)
    (hlevel : core.level = .el1) : f.SameContext step.frame := by
  cases h with
  | ignored => exact .refl f
  | fatal => exact .refl f
  | forwarded => exact .refl f
  | refused => exact f.sameContext_writeReturn _ _
  | completed _ _ _ served =>
    cases served with
    | tsp => exact .of_goOn (Frame.sameContext_writeReturn ..)
    | optee => exact f.sameContext_writeReturn _ _
    | invoke level => exact nomatch hlevel.symm.trans level
    | leave level => exact nomatch hlevel.symm.trans level

/-! ### Side by side -/

theorem Sound.parked_of_el1 (h : core.Sound .el1) : core.parked = none := by
  cases hparked : core.parked with
  | none => rfl
  | some caller => exact nomatch (h.parked caller hparked).1

/-- Two monitors that host the same applets at different levels agree on all
that is not the applets'. -/
theorem agreeBut_hosting (level level' : Level) (applets : List Applet) :
    AgreeBut .custom (hosting level applets) (hosting level' applets) := by
  obtain ⟨a, h⟩ := hosting_eq level applets
  obtain ⟨a', h'⟩ := hosting_eq level' applets
  rw [h, h']
  refine ⟨rfl, ?_⟩
  intro t ht
  cases t with
  | custom => exact absurd rfl ht
  | _ => rfl

/-- A monitor at EL1 denies its applets and is otherwise one at EL3.  In any
run: every call to an applet is denied, no caller is ever parked, and every
trap goes on in the context that trapped.  And a monitor at EL3 that hosts the
same applets, with the same traps and the same controller, gives the same
response to every trap but the calls to applets; all along it has come as far
and its other services are in the same state, whatever worlds its own applets
have been to. -/
theorem el1_runs_like_el3 (applets : List Applet) (controller : γ)
    (traps : List (TrapVector × Frame)) :
    let low := hosting .el1 applets
    let high := hosting .el3 applets
    (∀ n v f, traps[n]? = some (v, f) →
      ∃ r, (low.responses controller traps)[n]? = some r ∧ f.SameContext r.frame ∧
        (v.callee? f = some .custom →
          (low.coreAfter controller (traps.take n)).phase ≠ .halted →
          ∃ denial, r.result = .ok (.refused (.denied denial))) ∧
        (v.callee? f ≠ some .custom → (high.responses controller traps)[n]? = some r)) ∧
    ∀ n,
      let core := low.coreAfter controller (traps.take n)
      let other := high.coreAfter controller (traps.take n)
      core.parked = none ∧ core.phase = other.phase ∧
        core.services.tsp = other.services.tsp ∧ core.services.optee = other.services.optee ∧
        low.controllerAfter controller (traps.take n) =
          high.controllerAfter controller (traps.take n) := by
  intro low high
  have hsound (n : Nat) : (low.coreAfter controller (traps.take n)).Sound .el1 :=
    (sound_hosting .el1 applets).coreAfter controller _
  have hagree (n : Nat) := (agreeBut_hosting .el1 .el3 applets).run controller (traps.take n)
  refine ⟨?_, ?_⟩
  · intro n v f hn
    obtain ⟨hcontroller, hcore⟩ := hagree n
    have hlevel := (hsound n).level_eq
    have hstep := handles_handle (hsound n).settled v f
      (low.controllerAfter controller (traps.take n))
    refine ⟨_, getElem?_responses low controller hn, hstep.sameContext_of_el1 hlevel, ?_, ?_⟩
    · intro hcall hhalted
      exact handle_custom_of_el1 hlevel ((hsound n).settled.resolve_right hhalted) hcall _
    · intro hcall
      rw [getElem?_responses high controller hn, ← hcontroller]
      exact congrArg some (hcore.handle hcall _).1.symm
  · intro n
    obtain ⟨hcontroller, hcore⟩ := hagree n
    exact ⟨(hsound n).parked_of_el1, hcore.phase, hcore.others .tsp nofun,
      hcore.others .optee nofun, hcontroller⟩

/-- A message is sent while an applet runs at EL3.  At EL1 the applet was
denied, and so is the way back from it; the message is answered alike. -/
theorem el1_runs_like_el3_bracketed :
    let sync : TrapVector := ⟨.lowerAArch64, .synchronous⟩
    let message := Frame.calling 0x400 0x3e000004 {}
    let traps := [(sync, Frame.calling 0x401 0xbd000001 {}), (sync, message),
      (sync, Frame.calling 0x400 0xbd000000 { x1 := 42 })]
    let low := (hosting .el1 [⟨0x0e200000, 0x0e300000⟩]).responses (⟨[]⟩ : InterruptQueue) traps
    let high := (hosting .el3 [⟨0x0e200000, 0x0e300000⟩]).responses (⟨[]⟩ : InterruptQueue) traps
    (∃ r denial, low[2]? = some r ∧ r.result = .ok (.refused (.denied denial))) ∧
      high.map (·.result.toOption) =
        [some (.completed .customEntryDone), some (.completed .opteeEntryDone),
          some (.completed .customEntryDone)] ∧
      ∃ r, low[1]? = some r ∧ high[1]? = some r ∧ message.SameContext r.frame := by
  intro sync message traps low high
  obtain ⟨hruns, -⟩ := el1_runs_like_el3 [⟨0x0e200000, 0x0e300000⟩] (⟨[]⟩ : InterruptQueue) traps
  obtain ⟨back, hback, -, hdenied, -⟩ := hruns 2 _ _ rfl
  obtain ⟨denial, hdenial⟩ := hdenied (by decide +zetaReduce) (by decide +zetaReduce)
  obtain ⟨answer, hanswer, hcontext, -, halike⟩ := hruns 1 sync message rfl
  refine ⟨⟨back, denial, hback, hdenial⟩, ?_, ?_⟩
  · decide +zetaReduce
  · exact ⟨answer, hanswer, halike (by decide +zetaReduce), hcontext⟩

end Core

end SecureMonitor
