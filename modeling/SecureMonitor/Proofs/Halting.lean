/-
SecureMonitor/Proofs/Halting.lean

When a core halts, and what is left of it then.  A trap is fatal by its
vector and its syndrome alone (`TrapVector.fault?`):

    on the monitor's own level, without a stack     unrecoverable vector
    synchronous, but no monitor call from below     unexpected exception

The first such trap of a run is the first that is answered with an error.
It changes nothing but the phase, and from then on nothing changes at all
(`StopsAt`).  Before it the core comes back to idle after each trap.
-/
import SecureMonitor.Interrupt.Queue
import SecureMonitor.Proofs.Run

namespace SecureMonitor

/-! ### Fatal traps -/

/-- What is fatal about a trap, if anything is. -/
def TrapVector.fault? (v : TrapVector) (f : Frame) : Option Fault :=
  let ec := field f.esr 26 6
  if v.origin = .currentSp0 then some (.unrecoverableVector v)
  else if v.kind = .synchronous ∧
      ¬((v.origin = .lowerAArch64 ∨ v.origin = .lowerAArch32) ∧ (ec = 0x13 ∨ ec = 0x17)) then
    some (.unexpectedSync v ec)
  else none

/-- What stops an idle core is what is fatal about the trap. -/
theorem TrapVector.disposition_eq_fatal_iff {v : TrapVector} {f : Frame} {fault : Fault} :
    v.disposition f.esr = .fatal fault ↔ v.fault? f = some fault := by
  have hcall : (v.origin.isLower && Syndrome.isCall (Syndrome.exceptionClass f.esr)) = true ↔
      (v.origin = .lowerAArch64 ∨ v.origin = .lowerAArch32) ∧
        (field f.esr 26 6 = 0x13 ∨ field f.esr 26 6 = 0x17) := by
    rw [Bool.and_eq_true, TrapOrigin.isLower_iff, Syndrome.isCall_iff]
    exact and_congr_right fun _ => or_comm
  by_cases ho : v.origin = .currentSp0
  · simp [disposition, fault?, recoverable, ho]
  · cases hk : v.kind with
    | synchronous =>
      -- a call from below is taken, and everything else is fatal
      simp only [disposition, fault?, recoverable, hk, hcall]
      by_cases hc : (v.origin = .lowerAArch64 ∨ v.origin = .lowerAArch32) ∧
          (field f.esr 26 6 = 0x13 ∨ field f.esr 26 6 = 0x17)
      · simp [ho, hc]
      · simp only [if_neg hc]
        simp [ho, hc, Syndrome.exceptionClass]
    | irq => simp [disposition, fault?, recoverable, ho, hk]
    | fiq => simp [disposition, fault?, recoverable, ho, hk]
    | serror => simp [disposition, fault?, recoverable, ho, hk]

/-- A trap that stops a core. -/
def isFatal (t : TrapVector × Frame) : Bool := (t.1.fault? t.2).isSome

/-- A response that is an error. -/
def Response.isFailure {γ : Type} (r : Response γ) : Bool := !r.result.isOk

variable {γ : Type} [InterruptController γ]

namespace Core

variable {core : Core} {p : Phase} {v : TrapVector} {f : Frame} {fault : Fault}

/-! ### One trap

A core that has not halted is idle or at another trap, in some phase `p`. -/

/-- A fatal trap stops the core and does nothing else. -/
theorem handle_of_fault (h : core.phase = p) (hf : v.fault? f = some fault) (controller : γ)
    (hp : p ≠ .halted := by decide) :
    (core.handle v f controller).result = .error fault ∧
      (core.handle v f controller).frame = f ∧
      (core.handle v f controller).controller = controller ∧
      (core.handle v f controller).core = { core with phase := .halted } :=
  handle_of_fatal (h ▸ hp) (TrapVector.disposition_eq_fatal_iff.mpr hf) controller

/-- Any other trap brings the core back to where it was, whether the trap is
served or refused. -/
theorem handle_of_no_fault (h : core.phase = p) (hf : v.fault? f = none) (controller : γ)
    (hp : p ≠ .halted := by decide) :
    (∃ outcome, (core.handle v f controller).result = .ok outcome) ∧
      (core.handle v f controller).core.phase = p := by
  have hh : core.phase ≠ .halted := h ▸ hp
  by_cases hi : core.phase = .idle
  · have hstep := handles_of_idle hi v f controller
    generalize core.handle v f controller = step at hstep ⊢
    cases hstep with
    | ignored halted => exact absurd halted hh
    | fatal _ found => exact nomatch hf.symm.trans (TrapVector.disposition_eq_fatal_iff.mp found)
    | forwarded => exact ⟨⟨_, rfl⟩, h⟩
    | refused => exact ⟨⟨_, rfl⟩, h⟩
    | completed _ _ _ served => exact ⟨⟨_, rfl⟩, served.phase_eq.trans h⟩
  · cases hd : v.disposition f.esr with
    | fatal fault => exact nomatch hf.symm.trans (TrapVector.disposition_eq_fatal_iff.mp hd)
    | forward =>
      obtain ⟨hresult, -, -, hcore⟩ := handle_of_forward hh hd controller
      exact ⟨⟨_, hresult⟩, by rw [hcore, h]⟩
    | call =>
      obtain ⟨hresult, -, -, hcore⟩ := handle_of_nested_call hi hh hd controller
      exact ⟨⟨_, hresult⟩, by rw [hcore, h]⟩

/-! ### A halted core -/

section

variable (h : core.phase = .halted) (controller : γ) (traps : List (TrapVector × Frame))

include h

/-- A halted core answers every trap of a run alike and stays as it is. -/
theorem run_of_halted :
    core.run controller traps =
      (traps.map fun t => Response.fatal .halted t.2 controller, core, controller) := by
  induction traps with
  | nil => rfl
  | cons t rest ih =>
    obtain ⟨v, f⟩ := t
    simp only [run, handle_of_halted h, Response.fatal, List.map_cons]
    rw [ih]
    rfl

theorem responses_of_halted :
    core.responses controller traps =
      traps.map fun t => Response.fatal .halted t.2 controller := by
  rw [responses, run_of_halted h]

theorem coreAfter_of_halted : core.coreAfter controller traps = core := by
  rw [coreAfter, run_of_halted h]

theorem controllerAfter_of_halted : core.controllerAfter controller traps = controller := by
  rw [controllerAfter, run_of_halted h]

end

/-! ### A whole run -/

/-- The run of `core` over `traps` stops at trap `i`: that trap is answered
with `fault` and every later one with an error of its own, no frame from
there on is changed, the core keeps everything but its phase, and the
controller is left alone. -/
structure StopsAt (core : Core) (controller : γ) (traps : List (TrapVector × Frame)) (i : Nat)
    (fault : Fault) : Prop where
  fatal : (core.responses controller traps)[i]?.map (·.result) = some (.error fault)
  later : ∀ n r, i < n → (core.responses controller traps)[n]? = some r →
    r.result = .error .halted
  frames : ∀ n r t, i ≤ n → (core.responses controller traps)[n]? = some r →
    traps[n]? = some t → r.frame = t.2
  frozen : ∀ n, i < n → core.coreAfter controller (traps.take n) =
    { core.coreAfter controller (traps.take i) with phase := .halted }
  silent : ∀ n, i < n → core.controllerAfter controller (traps.take n) =
    core.controllerAfter controller (traps.take i)

/-- A run that begins with a fatal trap stops there. -/
theorem stopsAt_zero (h : core.phase ≠ .halted) (hf : v.fault? f = some fault) (controller : γ)
    (rest : List (TrapVector × Frame)) : core.StopsAt controller ((v, f) :: rest) 0 fault := by
  obtain ⟨hresult, hframe, hcontroller, hcore⟩ := handle_of_fault rfl hf controller h
  have hphase : (core.handle v f controller).core.phase = .halted := by rw [hcore]
  -- from the second trap on the responses are those of a halted core
  have hlater {n : Nat} {r : Response γ}
      (hr : (core.responses controller ((v, f) :: rest))[n + 1]? = some r) :
      ∃ t, rest[n]? = some t ∧ r = Response.fatal .halted t.2 controller := by
    rw [responses_cons, List.getElem?_cons_succ, responses_of_halted hphase, List.getElem?_map,
      Option.map_eq_some_iff, hcontroller] at hr
    obtain ⟨t, ht, rfl⟩ := hr
    exact ⟨t, ht, rfl⟩
  refine ⟨?_, ?_, ?_, ?_, ?_⟩
  · exact congrArg some hresult
  · intro n r hn hr
    obtain ⟨m, rfl⟩ := Nat.exists_eq_succ_of_ne_zero (Nat.ne_of_gt hn)
    obtain ⟨t, -, rfl⟩ := hlater hr
    rfl
  · intro n r t _ hr ht
    cases n with
    | zero =>
      cases hr
      cases ht
      exact hframe
    | succ m =>
      obtain ⟨t', ht', rfl⟩ := hlater hr
      cases ht'.symm.trans ht
      rfl
  · intro n hn
    obtain ⟨m, rfl⟩ := Nat.exists_eq_succ_of_ne_zero (Nat.ne_of_gt hn)
    rw [List.take_succ_cons, coreAfter_cons, coreAfter_of_halted hphase, hcore]
    rfl
  · intro n hn
    obtain ⟨m, rfl⟩ := Nat.exists_eq_succ_of_ne_zero (Nat.ne_of_gt hn)
    rw [List.take_succ_cons, controllerAfter_cons, controllerAfter_of_halted hphase, hcontroller]
    rfl

/-- A run stops one trap later if a trap is put before it that is not fatal. -/
theorem StopsAt.cons {controller : γ} {rest : List (TrapVector × Frame)} {i : Nat}
    (h : (core.handle v f controller).core.StopsAt (core.handle v f controller).controller
      rest i fault) : core.StopsAt controller ((v, f) :: rest) (i + 1) fault := by
  refine ⟨?_, ?_, ?_, ?_, ?_⟩
  · rw [responses_cons, List.getElem?_cons_succ]
    exact h.fatal
  · intro n r hn hr
    obtain ⟨m, rfl⟩ := Nat.exists_eq_succ_of_ne_zero (Nat.ne_zero_of_lt hn)
    rw [responses_cons, List.getElem?_cons_succ] at hr
    exact h.later m r (Nat.lt_of_succ_lt_succ hn) hr
  · intro n r t hn hr ht
    obtain ⟨m, rfl⟩ := Nat.exists_eq_succ_of_ne_zero (Nat.ne_zero_of_lt hn)
    rw [responses_cons, List.getElem?_cons_succ] at hr
    rw [List.getElem?_cons_succ] at ht
    exact h.frames m r t (Nat.le_of_succ_le_succ hn) hr ht
  · intro n hn
    obtain ⟨m, rfl⟩ := Nat.exists_eq_succ_of_ne_zero (Nat.ne_zero_of_lt hn)
    rw [List.take_succ_cons, List.take_succ_cons, coreAfter_cons, coreAfter_cons]
    exact h.frozen m (Nat.lt_of_succ_lt_succ hn)
  · intro n hn
    obtain ⟨m, rfl⟩ := Nat.exists_eq_succ_of_ne_zero (Nat.ne_zero_of_lt hn)
    rw [List.take_succ_cons, List.take_succ_cons, controllerAfter_cons, controllerAfter_cons]
    exact h.silent m (Nat.lt_of_succ_lt_succ hn)

/-- The run of a core stops at the first fatal trap. -/
theorem stopsAt_of_findIdx? (h : core.phase = p) (controller : γ)
    {traps : List (TrapVector × Frame)} {i : Nat} (hi : traps.findIdx? isFatal = some i)
    (hp : p ≠ .halted := by decide) :
    ∃ v f fault, traps[i]? = some (v, f) ∧ v.fault? f = some fault ∧
      core.StopsAt controller traps i fault := by
  induction traps generalizing core controller i with
  | nil => cases hi
  | cons t rest ih =>
    obtain ⟨v, f⟩ := t
    rw [List.findIdx?_cons] at hi
    cases hf : v.fault? f with
    | some fault =>
      simp only [isFatal, hf, Option.isSome_some, if_true, Option.some.injEq] at hi
      subst hi
      exact ⟨v, f, fault, rfl, hf, stopsAt_zero (h ▸ hp) hf controller rest⟩
    | none =>
      simp only [isFatal, hf, Option.isSome_none, Bool.false_eq_true, if_false,
        Option.map_eq_some_iff] at hi
      obtain ⟨j, hj, rfl⟩ := hi
      obtain ⟨-, hback⟩ := handle_of_no_fault h hf controller hp
      obtain ⟨v', f', fault, ht, hf', hstops⟩ :=
        ih hback (core.handle v f controller).controller hj
      exact ⟨v', f', fault, ht, hf', hstops.cons⟩

/-- The first trap that a core answers with an error is the first fatal one. -/
theorem findIdx?_responses (h : core.phase = p) (controller : γ)
    (traps : List (TrapVector × Frame)) (hp : p ≠ .halted := by decide) :
    (core.responses controller traps).findIdx? Response.isFailure = traps.findIdx? isFatal := by
  induction traps generalizing core controller with
  | nil => rfl
  | cons t rest ih =>
    obtain ⟨v, f⟩ := t
    rw [responses_cons, List.findIdx?_cons, List.findIdx?_cons]
    cases hf : v.fault? f with
    | some fault =>
      obtain ⟨hresult, -⟩ := handle_of_fault h hf controller hp
      simp [isFatal, hf, Response.isFailure, hresult, Except.isOk, Except.toBool]
    | none =>
      obtain ⟨⟨outcome, hresult⟩, hback⟩ := handle_of_no_fault h hf controller hp
      rw [ih hback]
      simp [isFatal, hf, Response.isFailure, hresult, Except.isOk, Except.toBool]

/-- The phase after a run tells whether there was a fatal trap in it. -/
theorem phase_coreAfter (h : core.phase = p) (controller : γ)
    (traps : List (TrapVector × Frame)) (hp : p ≠ .halted := by decide) :
    (core.coreAfter controller traps).phase = if traps.any isFatal then .halted else p := by
  induction traps generalizing core controller with
  | nil => exact h
  | cons t rest ih =>
    obtain ⟨v, f⟩ := t
    rw [coreAfter_cons, List.any_cons]
    cases hf : v.fault? f with
    | some fault =>
      obtain ⟨-, -, -, hcore⟩ := handle_of_fault h hf controller hp
      have hphase : (core.handle v f controller).core.phase = .halted := by rw [hcore]
      rw [coreAfter_of_halted hphase, hphase]
      simp [isFatal, hf]
    | none =>
      have hnot : isFatal (v, f) = false := by simp [isFatal, hf]
      rw [ih (handle_of_no_fault h hf controller hp).2, hnot, Bool.false_or]

/-- The halting criterion.  Whatever applets a monitor hosts and whatever
traps it is handed one after another: after any number of them the core is
idle, or it has halted, the latter exactly if a fatal trap was among them;
the first trap that is answered with an error is the first that is fatal; a
monitor call from below is answered and brings the core back to idle,
whatever its registers hold; and from the first fatal trap on nothing
changes any more. -/
theorem halting_criterion (level : Level) (applets : List Applet) (controller : γ)
    (traps : List (TrapVector × Frame)) :
    let core := hosting level applets
    let responses := core.responses controller traps
    let coreAt := fun n => core.coreAfter controller (traps.take n)
    (∀ n, (coreAt n).phase = if (traps.take n).any isFatal then .halted else .idle) ∧
      responses.findIdx? Response.isFailure = traps.findIdx? isFatal ∧
      (∀ n v f, traps[n]? = some (v, f) → v.kind = .synchronous →
        v.origin = .lowerAArch64 ∨ v.origin = .lowerAArch32 →
        field f.esr 26 6 = 0x13 ∨ field f.esr 26 6 = 0x17 → (coreAt n).phase = .idle →
          (∃ outcome, responses[n]?.map (·.result) = some (.ok outcome)) ∧
            (coreAt (n + 1)).phase = .idle) ∧
      ∀ i, traps.findIdx? isFatal = some i →
        ∃ v f fault, traps[i]? = some (v, f) ∧ v.fault? f = some fault ∧
          core.StopsAt controller traps i fault := by
  have hidle := phase_hosting level applets
  refine ⟨?_, ?_, ?_, ?_⟩
  · exact fun n => phase_coreAfter hidle controller _
  · exact findIdx?_responses hidle controller traps
  · intro n v f ht hkind horigin hclass hphase
    have hf : v.fault? f = none := by
      have hlower : v.origin ≠ .currentSp0 := by
        rintro hsp0
        rw [hsp0] at horigin
        rcases horigin with h | h <;> cases h
      simp [TrapVector.fault?, hkind, hlower, horigin, hclass]
    obtain ⟨⟨outcome, hresult⟩, hnext⟩ := handle_of_no_fault hphase hf
      ((hosting level applets).controllerAfter controller (traps.take n))
    refine ⟨⟨outcome, ?_⟩, ?_⟩
    · rw [getElem?_responses _ _ ht]
      exact congrArg some hresult
    · show ((hosting level applets).coreAfter controller (traps.take (n + 1))).phase = .idle
      rw [coreAfter_take_succ _ _ ht]
      exact hnext
  · exact fun i hi => stopsAt_of_findIdx? hidle controller hi

/-- A monitor that stops at its third trap: a call to nobody is refused, an
interrupt is handed on, and then something goes wrong on the monitor's own
level. -/
theorem halting_criterion_third :
    let core := hosting .el1 []
    let traps : List (TrapVector × Frame) :=
      [(⟨.lowerAArch64, .synchronous⟩, Frame.calling 1 0xbf000063 {}),
        (⟨.lowerAArch32, .irq⟩, Frame.calling 1 0 {}),
        (⟨.currentSpx, .synchronous⟩, Frame.calling 0 0 {}),
        (⟨.lowerAArch64, .synchronous⟩, Frame.calling 1 0xbf000063 {})]
    (core.responses (⟨[]⟩ : InterruptQueue) traps).findIdx? Response.isFailure = some 2 ∧
      ∃ fault, core.StopsAt (⟨[]⟩ : InterruptQueue) traps 2 fault := by
  intro core traps
  have hfatal : traps.findIdx? isFatal = some 2 := by
    decide +zetaReduce
  obtain ⟨-, hfirst, -, hstops⟩ := halting_criterion .el1 [] (⟨[]⟩ : InterruptQueue) traps
  obtain ⟨v, f, fault, -, -, hat⟩ := hstops 2 hfatal
  exact ⟨hfirst.trans hfatal, fault, hat⟩

end Core

end SecureMonitor
