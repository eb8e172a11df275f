/-
SecureMonitor/Proofs/Handling.lean

Everything that handling a trap can do.  Between two traps a core is
settled: it is idle or it has halted.  What such a core makes of a trap is
one of five things (`Handles`), and every property of a step is read off
from them by cases:

    ignored    the core has halted, and nothing happens
    fatal      the trap stops the core
    forwarded  an interrupt or a system error is handed on
    refused    a call is answered with an error, and nothing else happens
    completed  a call is served

`handles_handle` says that these are all, and each case carries the guards
under which it is met.  Where two steps are to be compared that is not enough,
and the whole step is written out case by case (`handle_of_astray` and those
around it).
-/
import SecureMonitor.Core.Handle
import SecureMonitor.Proofs.Serving

namespace SecureMonitor

open InterruptController

variable {γ : Type} [InterruptController γ]

/-! ### Calls from below -/

theorem TrapOrigin.isLower_iff {o : TrapOrigin} :
    o.isLower = true ↔ o = .lowerAArch64 ∨ o = .lowerAArch32 := by
  cases o <;> simp [isLower]

/-- A trap that is a monitor call from a lower level. -/
structure TrapVector.IsCall (v : TrapVector) (f : Frame) : Prop where
  kind : v.kind = .synchronous
  origin : v.origin = .lowerAArch64 ∨ v.origin = .lowerAArch32
  exceptionClass : field f.esr 26 6 = 0x13 ∨ field f.esr 26 6 = 0x17

/-- These are the traps that a core takes for calls. -/
theorem TrapVector.isCall_iff {v : TrapVector} {f : Frame} :
    v.IsCall f ↔ v.disposition f.esr = .call := by
  rw [disposition_eq_call_iff, TrapOrigin.isLower_iff, Syndrome.isCall_iff]
  constructor
  · rintro ⟨hkind, horigin, hclass⟩
    exact ⟨hkind, horigin, hclass.symm⟩
  · rintro ⟨hkind, horigin, hclass⟩
    exact ⟨hkind, horigin, hclass.symm⟩

/-- Whether a trap had a given outcome can be decided. -/
theorem Response.toOption_result_eq_some_iff {γ : Type} {r : Response γ} {outcome : Outcome} :
    r.result.toOption = some outcome ↔ r.result = .ok outcome := by
  cases r.result <;> simp [Except.toOption]

namespace Core

/-! ### A trap to an idle core

What becomes of it, to the last word in the journal.  For a call this is known
once it is known what serving it gives. -/

section

variable {core : Core} {v : TrapVector} {f : Frame} {id : CallId} {call : Call} {why : Refusal}

theorem handle_of_idle_of_fatal {fault : Fault} (idle : core.phase = .idle)
    (found : v.disposition f.esr = .fatal fault) (controller : γ) :
    core.handle v f controller =
      { result := .error fault, frame := f, controller := controller,
        log := [.taken v f.elr, .halting fault], core := { core with phase := .halted } } := by
  rw [handle_of_idle idle]
  simp only [InFlight.start, InFlight.finish, Progress.finishTaken, found]
  rfl

theorem handle_of_idle_of_forward (idle : core.phase = .idle)
    (found : v.disposition f.esr = .forward) (controller : γ) :
    core.handle v f controller =
      { result := .ok (.forwarded v.kind), frame := f, controller := (serve v controller).1,
        log := .taken v f.elr :: (serve v controller).2, core := core } := by
  obtain ⟨level, phase, services, parked⟩ := core
  obtain rfl : phase = .idle := idle
  rw [handle_of_idle rfl]
  simp only [InFlight.start, InFlight.finish, Progress.finishTaken, found]
  rfl

theorem handle_of_astray (idle : core.phase = .idle) (found : v.disposition f.esr = .call)
    (astray : Call.route v.origin f.callId = .error why) (controller : γ) :
    core.handle v f controller =
      { result := .ok (.refused why), frame := f.writeReturn why.value {},
        controller := controller, log := [.taken v f.elr, .refused f.callId why], core := core } := by
  obtain ⟨level, phase, services, parked⟩ := core
  obtain rfl : phase = .idle := idle
  rw [handle_of_idle rfl]
  simp only [InFlight.start, InFlight.finish, Progress.finishTaken, found, Progress.enter, astray]
  rfl

/-- How far the core has come makes no difference to serving a call. -/
theorem perform_of_phase (core : Core) (p : Phase) (f : Frame) (id : CallId) (call : Call) :
    ({ core with phase := p } : Core).perform f id call = core.perform f id call := rfl

theorem handle_of_served {event : Event} {g : Frame} (idle : core.phase = .idle)
    (found : v.disposition f.esr = .call) (routed : Call.route v.origin f.callId = .ok (id, call))
    (served : (core.perform f id call).result = .ok (event, g)) (controller : γ) :
    core.handle v f controller =
      { result := .ok (.completed event), frame := g, controller := controller,
        log := [.taken v f.elr, .routed id] ++ (core.perform f id call).log,
        core := { (core.perform f id call).core with phase := .idle } } := by
  rw [handle_of_idle idle]
  simp only [InFlight.start, InFlight.finish, Progress.finishTaken, found, Progress.enter, routed,
    Progress.accept, Progress.tell, Progress.finishAccepted, Progress.perform, perform_of_phase,
    served]
  rfl

/-- The core is as it was before it asked the service. -/
theorem handle_of_unserved (idle : core.phase = .idle)
    (found : v.disposition f.esr = .call) (routed : Call.route v.origin f.callId = .ok (id, call))
    (unserved : (core.perform f id call).result = .error why) (controller : γ) :
    core.handle v f controller =
      { result := .ok (.refused why), frame := f.writeReturn why.value {},
        controller := controller,
        log := [.taken v f.elr, .routed id] ++ (core.perform f id call).log ++
          [.refused f.callId why],
        core := core } := by
  rw [handle_of_idle idle]
  simp only [InFlight.start, InFlight.finish, Progress.finishTaken, found, Progress.enter, routed,
    Progress.accept, Progress.tell, Progress.finishAccepted, Progress.perform, perform_of_phase,
    unserved, perform_core_of_error unserved]
  obtain ⟨level, phase, services, parked⟩ := core
  obtain rfl : phase = .idle := idle
  rfl

end

/-! ### What a settled core makes of a trap -/

/-- The core is at no trap. -/
def Settled (core : Core) : Prop := core.phase = .idle ∨ core.phase = .halted

/-- Why a call is refused: its identifier asks for nothing that exists, or
the function it asks for cannot be served. -/
inductive Refuses (core : Core) (v : TrapVector) (f : Frame) : Refusal → Prop
  | route {why : Refusal} (astray : Call.route v.origin f.callId = .error why) :
      Refuses core v f why
  | serve {id : CallId} {call : Call} {why : Refusal}
      (routed : Call.route v.origin f.callId = .ok (id, call))
      (unserved : (core.perform f id call).result = .error why) :
      Refuses core v f why

/-- What a settled core makes of a trap. -/
inductive Handles (core : Core) (v : TrapVector) (f : Frame) (controller : γ) : Step γ → Prop
  | ignored (halted : core.phase = .halted) :
      Handles core v f controller
        { result := .error .halted, frame := f, controller := controller, log := [], core := core }
  | fatal {fault : Fault} {log : List Notice} (idle : core.phase = .idle)
      (found : v.disposition f.esr = .fatal fault) :
      Handles core v f controller
        { result := .error fault, frame := f, controller := controller, log := log,
          core := { core with phase := .halted } }
  | forwarded {log : List Notice} (idle : core.phase = .idle)
      (found : v.disposition f.esr = .forward) :
      Handles core v f controller
        { result := .ok (.forwarded v.kind), frame := f, controller := (serve v controller).1,
          log := log, core := core }
  | refused {why : Refusal} {log : List Notice} (idle : core.phase = .idle)
      (found : v.disposition f.esr = .call) (cause : core.Refuses v f why) :
      Handles core v f controller
        { result := .ok (.refused why), frame := f.writeReturn why.value {},
          controller := controller, log := log, core := core }
  | completed {id : CallId} {call : Call} {event : Event} {g : Frame} {core' : Core}
      {log : List Notice} (idle : core.phase = .idle) (found : v.disposition f.esr = .call)
      (routed : Call.route v.origin f.callId = .ok (id, call))
      (served : core.Completes f id call event g core') :
      Handles core v f controller
        { result := .ok (.completed event), frame := g, controller := controller, log := log,
          core := core' }

/-- An idle core takes the trap to its end. -/
theorem handles_of_idle {core : Core} (h : core.phase = .idle) (v : TrapVector) (f : Frame)
    (controller : γ) : core.Handles v f controller (core.handle v f controller) := by
  cases hd : v.disposition f.esr with
  | fatal fault =>
    rw [handle_of_idle_of_fatal h hd]
    exact .fatal h hd
  | forward =>
    rw [handle_of_idle_of_forward h hd]
    exact .forwarded h hd
  | call =>
    cases hr : Call.route v.origin f.callId with
    | error why =>
      rw [handle_of_astray h hd hr]
      exact .refused h hd (.route hr)
    | ok found =>
      obtain ⟨id, call⟩ := found
      cases hp : (core.perform f id call).result with
      | error why =>
        rw [handle_of_unserved h hd hr hp]
        exact .refused h hd (.serve hr hp)
      | ok done =>
        obtain ⟨event, g⟩ := done
        have hserved := completes_of_perform hp
        rw [h] at hserved
        rw [handle_of_served h hd hr hp]
        exact .completed h hd hr hserved

/-- Every step is one of the five. -/
theorem handles_handle {core : Core} (h : core.Settled) (v : TrapVector) (f : Frame)
    (controller : γ) : core.Handles v f controller (core.handle v f controller) := by
  rcases h with h | h
  · exact handles_of_idle h v f controller
  · rw [handle_of_halted h]
    exact .ignored h

/-! ### Traps within traps

A core that is at a trap makes the same of an interrupt and of a fatal trap
as an idle core does.  A call it answers as busy. -/

section

variable {core : Core} {v : TrapVector} {f : Frame}

/-- A fatal trap stops the core, whatever it was at, and does nothing else. -/
theorem handle_of_fatal {fault : Fault} (h : core.phase ≠ .halted)
    (found : v.disposition f.esr = .fatal fault) (controller : γ) :
    (core.handle v f controller).result = .error fault ∧
      (core.handle v f controller).frame = f ∧
      (core.handle v f controller).controller = controller ∧
      (core.handle v f controller).core = { core with phase := .halted } := by
  by_cases hi : core.phase = .idle
  · rw [handle_of_idle_of_fatal hi found]
    exact ⟨rfl, rfl, rfl, rfl⟩
  · rw [handle_of_busy hi h, Core.turnAway, turnAway_of_fatal found]
    exact ⟨rfl, rfl, rfl, rfl⟩

/-- An interrupt or a system error is handed on, and the controller alone
takes notice of it. -/
theorem handle_of_forward (h : core.phase ≠ .halted) (found : v.disposition f.esr = .forward)
    (controller : γ) :
    (core.handle v f controller).result = .ok (.forwarded v.kind) ∧
      (core.handle v f controller).frame = f ∧
      (core.handle v f controller).controller = (serve v controller).1 ∧
      (core.handle v f controller).core = core := by
  by_cases hi : core.phase = .idle
  · rw [handle_of_idle_of_forward hi found]
    exact ⟨rfl, rfl, rfl, rfl⟩
  · rw [handle_of_busy hi h, Core.turnAway, turnAway_of_forward found]
    exact ⟨rfl, rfl, rfl, rfl⟩

/-- A call within another trap is told so in its own frame, and that is all. -/
theorem handle_of_nested_call (hi : core.phase ≠ .idle) (hh : core.phase ≠ .halted)
    (found : v.disposition f.esr = .call) (controller : γ) :
    (core.handle v f controller).result = .ok (.refused .busy) ∧
      (core.handle v f controller).frame = f.writeReturn Refusal.busy.value {} ∧
      (core.handle v f controller).controller = controller ∧
      (core.handle v f controller).core = core := by
  rw [handle_of_busy hi hh, Core.turnAway, turnAway_of_call found]
  exact ⟨rfl, rfl, rfl, rfl⟩

/-- A core that has not halted answers every call: it refuses the call, in the
frame of the call, or it completes it. -/
theorem answers_call (h : core.phase ≠ .halted) (found : v.disposition f.esr = .call)
    (controller : γ) :
    (∃ why, (core.handle v f controller).result = .ok (.refused why) ∧
        (core.handle v f controller).frame = f.writeReturn why.value {}) ∨
      ∃ id call event core', Call.route v.origin f.callId = .ok (id, call) ∧
        (core.handle v f controller).result = .ok (.completed event) ∧
        core.Completes f id call event (core.handle v f controller).frame core' := by
  by_cases hi : core.phase = .idle
  · have hstep := handles_of_idle hi v f controller
    generalize core.handle v f controller = step at hstep ⊢
    cases hstep with
    | ignored halted => exact absurd halted h
    | fatal _ found' => exact nomatch found.symm.trans found'
    | forwarded _ found' => exact nomatch found.symm.trans found'
    | refused => exact .inl ⟨_, rfl, rfl⟩
    | completed _ _ routed served => exact .inr ⟨_, _, _, _, routed, rfl, served⟩
  · obtain ⟨hresult, hframe, -⟩ := handle_of_nested_call hi h found controller
    exact .inl ⟨_, hresult, hframe⟩

/-- What is no call, or comes too late for one, has no answer and keeps its frame. -/
theorem answers_no_other (h : ¬(core.phase ≠ .halted ∧ v.disposition f.esr = .call))
    (controller : γ) :
    (core.handle v f controller).frame = f ∧
      ∀ outcome, (core.handle v f controller).result = .ok outcome →
        outcome = .forwarded v.kind := by
  by_cases hh : core.phase = .halted
  · rw [handle_of_halted hh]
    exact ⟨rfl, fun _ hok => nomatch hok⟩
  · cases hd : v.disposition f.esr with
    | fatal fault =>
      obtain ⟨hresult, hframe, -⟩ := handle_of_fatal hh hd controller
      exact ⟨hframe, fun _ hok => nomatch hresult.symm.trans hok⟩
    | forward =>
      obtain ⟨hresult, hframe, -⟩ := handle_of_forward hh hd controller
      exact ⟨hframe, fun _ hok => (Except.ok.inj (hresult.symm.trans hok)).symm⟩
    | call => exact absurd ⟨hh, hd⟩ h

/-- No call, nested or not, is brought before the interrupt controller. -/
theorem controller_of_call (found : v.disposition f.esr = .call) (controller : γ) :
    (core.handle v f controller).controller = controller := by
  by_cases hs : core.Settled
  · have hstep := handles_handle hs v f controller
    generalize core.handle v f controller = step at hstep ⊢
    cases hstep with
    | forwarded _ found' => exact nomatch found.symm.trans found'
    | _ => rfl
  · obtain ⟨hi, hh⟩ := not_or.mp hs
    exact (handle_of_nested_call hi hh found controller).2.2.1

end

end Core

end SecureMonitor
