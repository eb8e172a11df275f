/-
SecureMonitor/Proofs/Separation.lean

The services do not get in each other's way.  To each of them belongs a part
of the core (`Core.Alike` says when two cores have it in common):

    TSP      the power state and the preempted call
    OP-TEE   the message count
    CUSTOM   the applets, the parked caller, and the level, without which
             there is no parking

A call looks at its own service's part and writes there and nowhere else.  So
of two cores that agree but for one service,

* a trap that is not for that service makes the same, to the last word in
  the journal, and they agree as before (`AgreeBut.handle`);
* a call to that service is nothing to the rest of its core, nor to the
  interrupt controller (`agreeBut_handle`).

These are the two halves of every statement that compares one run with
another: by both together the runs go side by side (`AgreeBut.step`,
`AgreeBut.run`), and by the second alone one of them may take a step without
the other.
-/
import SecureMonitor.Proofs.Run

namespace SecureMonitor

/-! ### Whose call a trap is -/

/-- The service to which the identifier of a trapped call belongs. -/
def TrapVector.addressee? (v : TrapVector) (f : Frame) : Option Service :=
  match v.disposition f.esr, CallId.decode f.callId with
  | .call, .ok id => some id.owner
  | _, _ => none

/-- The service that has the function which a trapped call asks for. -/
def TrapVector.callee? (v : TrapVector) (f : Frame) : Option Service :=
  match v.disposition f.esr, Call.route v.origin f.callId with
  | .call, .ok (_, call) => some call.owner
  | _, _ => none

namespace TrapVector

variable {v : TrapVector} {f : Frame} {s : Service} {id : CallId} {call : Call}

theorem callee?_of_route (found : v.disposition f.esr = .call)
    (routed : Call.route v.origin f.callId = .ok (id, call)) : v.callee? f = some call.owner := by
  simp [callee?, found, routed]

theorem addressee?_eq_some_iff :
    v.addressee? f = some s ↔
      v.disposition f.esr = .call ∧ ∃ id, CallId.decode f.callId = .ok id ∧ id.owner = s := by
  unfold addressee?
  split <;> simp_all

theorem callee?_eq_some_iff :
    v.callee? f = some s ↔
      v.disposition f.esr = .call ∧
        ∃ routed, Call.route v.origin f.callId = .ok routed ∧ routed.2.owner = s := by
  unfold callee?
  split <;> simp_all

/-- A call that gets to a service has the service's identifier. -/
theorem addressee?_of_callee? (h : v.callee? f = some s) : v.addressee? f = some s := by
  obtain ⟨found, ⟨id, call⟩, routed, rfl⟩ := callee?_eq_some_iff.mp h
  have hdecode := (Call.route_eq_ok routed).1
  have howner := (Call.ofNumber?_of_route routed).1
  exact addressee?_eq_some_iff.mpr ⟨found, id, hdecode, howner⟩

end TrapVector

namespace Core

/-! ### Parts of a core -/

/-- Two cores have the part of a service in common. -/
def Alike (c d : Core) : Service → Prop
  | .tsp => c.services.tsp = d.services.tsp
  | .optee => c.services.optee = d.services.optee
  | .custom => c.level = d.level ∧ c.services.applets = d.services.applets ∧ c.parked = d.parked

variable {c d e : Core} {s t : Service}

theorem Alike.refl (c : Core) (s : Service) : c.Alike c s := by
  cases s with
  | custom => exact ⟨rfl, rfl, rfl⟩
  | _ => rfl

theorem Alike.symm (h : c.Alike d s) : d.Alike c s := by
  cases s with
  | custom => exact ⟨h.1.symm, h.2.1.symm, h.2.2.symm⟩
  | _ => exact Eq.symm h

theorem Alike.trans (h : c.Alike d s) (h' : d.Alike e s) : c.Alike e s := by
  cases s with
  | custom => exact ⟨h.1.trans h'.1, h.2.1.trans h'.2.1, h.2.2.trans h'.2.2⟩
  | _ => exact Eq.trans h h'

/-- To the services a core is the same, however far it is with a trap. -/
theorem alike_of_phase (c : Core) (p : Phase) (s : Service) :
    ({ c with phase := p } : Core).Alike c s := by
  cases s with
  | custom => exact ⟨rfl, rfl, rfl⟩
  | _ => rfl

/-- Two cores are as far with their traps as each other, and have everything
in common but the part of `s`. -/
structure AgreeBut (s : Service) (c d : Core) : Prop where
  phase : c.phase = d.phase
  others : ∀ t, t ≠ s → c.Alike d t

theorem AgreeBut.refl (s : Service) (c : Core) : AgreeBut s c c :=
  ⟨rfl, fun t _ => .refl c t⟩

theorem AgreeBut.symm (h : AgreeBut s c d) : AgreeBut s d c :=
  ⟨h.phase.symm, fun t ht => (h.others t ht).symm⟩

theorem AgreeBut.trans (h : AgreeBut s c d) (h' : AgreeBut s d e) : AgreeBut s c e :=
  ⟨h.phase.trans h'.phase, fun t ht => (h.others t ht).trans (h'.others t ht)⟩

/-! ### Serving a call -/

variable {f g : Frame} {id : CallId} {call : Call} {event : Event}

/-- A call writes to the part of its own service and nowhere else. -/
theorem Completes.alike (h : c.Completes f id call event g d) (hs : s ≠ call.owner) :
    d.Alike c s := by
  cases h with
  | tsp =>
    cases s with
    | tsp => exact absurd rfl hs
    | optee => rfl
    | custom => exact ⟨rfl, rfl, rfl⟩
  | optee =>
    cases s with
    | tsp => rfl
    | optee => exact absurd rfl hs
    | custom => exact ⟨rfl, rfl, rfl⟩
  | invoke =>
    cases s with
    | custom => exact absurd rfl hs
    | _ => rfl
  | leave =>
    cases s with
    | custom => exact absurd rfl hs
    | _ => rfl

/-- How a core goes on depends on its level and its parked caller only. -/
theorem resume_congr (hlevel : c.level = d.level) (hparked : c.parked = d.parked) (f : Frame)
    (r : Resume) : c.resume f r = d.resume f r ∧ c.resumeNotices r = d.resumeNotices r := by
  cases r <;> simp only [resume, resumeNotices, hlevel, hparked, and_self]

/-- A call looks at the part of its own service and nowhere else. -/
theorem Alike.perform (h : c.Alike d call.owner) (f : Frame) (id : CallId) :
    (c.perform f id call).result = (d.perform f id call).result ∧
      (c.perform f id call).log = (d.perform f id call).log ∧
      (c.perform f id call).core.Alike (d.perform f id call).core call.owner := by
  cases call with
  | tsp fn =>
    have htsp : c.services.tsp = d.services.tsp := h
    -- the payload does not look at its caller's world, which only EL3 knows
    have hask : c.services.tsp.handle fn (c.request f id) =
        d.services.tsp.handle fn (d.request f id) := by
      rw [htsp]
      rfl
    rw [perform_tsp, perform_tsp, hask, htsp]
    exact ⟨rfl, rfl, rfl⟩
  | optee fn =>
    have hoptee : c.services.optee = d.services.optee := h
    have hask : c.services.optee.handle fn (c.request f id) =
        d.services.optee.handle fn (d.request f id) := by
      rw [hoptee]
      rfl
    rw [perform_optee, perform_optee, hask]
    exact ⟨rfl, rfl, rfl⟩
  | custom fn =>
    obtain ⟨hlevel, happlets, hparked⟩ : c.level = d.level ∧
      c.services.applets = d.services.applets ∧ c.parked = d.parked := h
    have hrequest : c.request f id = d.request f id := by rw [request, request, hlevel]
    rw [perform_custom, perform_custom, hrequest, happlets]
    cases d.services.applets.handle fn (d.request f id) with
    | error why => exact ⟨rfl, rfl, hlevel, happlets, hparked⟩
    | ok reply =>
      obtain ⟨hresume, hnotices⟩ := resume_congr hlevel hparked f reply.resume
      simp only [hresume, hnotices]
      cases d.resume f reply.resume with
      | error why => exact ⟨rfl, rfl, hlevel, happlets, hparked⟩
      | ok going => exact ⟨rfl, rfl, hlevel, happlets, rfl⟩

/-! ### One trap -/

variable {γ : Type} [InterruptController γ] {v : TrapVector}

/-- A trap that gets to no function of `s` does not touch the part of `s`. -/
theorem alike_handle (hs : v.callee? f ≠ some s) (core : Core) (controller : γ) :
    (core.handle v f controller).core.Alike core s := by
  by_cases hsettled : core.Settled
  · have hstep := handles_handle hsettled v f controller
    generalize core.handle v f controller = step at hstep ⊢
    cases hstep with
    | ignored => exact .refl core s
    | fatal => exact alike_of_phase core .halted s
    | forwarded => exact .refl core s
    | refused => exact .refl core s
    | completed _ found routed served =>
      refine served.alike ?_
      rintro rfl
      exact hs (TrapVector.callee?_of_route found routed)
  · obtain ⟨hi, hh⟩ := not_or.mp hsettled
    cases hd : v.disposition f.esr with
    | fatal fault =>
      rw [(handle_of_fatal hh hd controller).2.2.2]
      exact alike_of_phase core .halted s
    | forward =>
      rw [(handle_of_forward hh hd controller).2.2.2]
      exact .refl core s
    | call =>
      rw [(handle_of_nested_call hi hh hd controller).2.2.2]
      exact .refl core s

/-- A call brings its core back to where it was with its traps. -/
theorem phase_of_call (found : v.disposition f.esr = .call) (core : Core) (controller : γ) :
    (core.handle v f controller).core.phase = core.phase := by
  by_cases hsettled : core.Settled
  · have hstep := handles_handle hsettled v f controller
    generalize core.handle v f controller = step at hstep ⊢
    cases hstep with
    | ignored => rfl
    | fatal _ found' => exact nomatch found.symm.trans found'
    | forwarded => rfl
    | refused => rfl
    | completed _ _ _ served => exact served.phase_eq
  · obtain ⟨hi, hh⟩ := not_or.mp hsettled
    rw [(handle_of_nested_call hi hh found controller).2.2.2]

/-- Two cores that are as far with their traps as each other, and to which the
called service is the same, make the same of a trap. -/
theorem handle_congr (hphase : c.phase = d.phase)
    (hcallee : ∀ t, v.callee? f = some t → c.Alike d t) (controller : γ) :
    (c.handle v f controller).toResponse = (d.handle v f controller).toResponse ∧
      (c.handle v f controller).core.phase = (d.handle v f controller).core.phase ∧
      ∀ t, v.callee? f = some t →
        (c.handle v f controller).core.Alike (d.handle v f controller).core t := by
  by_cases hi : d.phase = .idle
  · have hi' := hphase.trans hi
    cases found : v.disposition f.esr with
    | fatal fault =>
      rw [handle_of_idle_of_fatal hi found, handle_of_idle_of_fatal hi' found]
      refine ⟨rfl, rfl, ?_⟩
      intro t ht
      simp [TrapVector.callee?, found] at ht
    | forward =>
      rw [handle_of_idle_of_forward hi found, handle_of_idle_of_forward hi' found]
      exact ⟨rfl, hphase, hcallee⟩
    | call =>
      cases routed : Call.route v.origin f.callId with
      | error why =>
        rw [handle_of_astray hi found routed, handle_of_astray hi' found routed]
        exact ⟨rfl, hphase, hcallee⟩
      | ok asked =>
        obtain ⟨id, call⟩ := asked
        have hcall := TrapVector.callee?_of_route found routed
        have halike := hcallee call.owner hcall
        obtain ⟨hresult, hlog, hafter⟩ := halike.perform f id
        cases hserve : (d.perform f id call).result with
        | error why =>
          rw [handle_of_unserved hi found routed hserve,
            handle_of_unserved hi' found routed (hresult.trans hserve), hlog]
          exact ⟨rfl, hphase, hcallee⟩
        | ok done =>
          obtain ⟨event, g⟩ := done
          rw [handle_of_served hi found routed hserve,
            handle_of_served hi' found routed (hresult.trans hserve), hlog]
          refine ⟨rfl, rfl, ?_⟩
          intro t ht
          obtain rfl : call.owner = t := Option.some.inj (hcall.symm.trans ht)
          exact ((alike_of_phase _ _ _).trans hafter).trans (alike_of_phase _ _ _).symm
  · by_cases hh : d.phase = .halted
    · rw [handle_of_halted hh, handle_of_halted (hphase.trans hh)]
      exact ⟨rfl, hphase, hcallee⟩
    · -- a busy core is not even asked
      rw [handle_of_busy hi hh, handle_of_busy (hphase ▸ hi) (hphase ▸ hh), turnAway, turnAway]
      cases (SecureMonitor.turnAway v f controller).result with
      | ok outcome => exact ⟨rfl, hphase, hcallee⟩
      | error fault =>
        refine ⟨rfl, rfl, ?_⟩
        intro t ht
        exact ((alike_of_phase c _ t).trans (hcallee t ht)).trans (alike_of_phase d _ t).symm

/-- Two cores that agree but for `s` make the same of a trap that gets to no
function of `s`, and agree afterwards. -/
theorem AgreeBut.handle (h : AgreeBut s c d) (hs : v.callee? f ≠ some s) (controller : γ) :
    (c.handle v f controller).toResponse = (d.handle v f controller).toResponse ∧
      AgreeBut s (c.handle v f controller).core (d.handle v f controller).core := by
  have hcallee : ∀ t, v.callee? f = some t → c.Alike d t := by
    rintro t ht
    refine h.others t ?_
    rintro rfl
    exact hs ht
  obtain ⟨hresponse, hphase, hafter⟩ := handle_congr h.phase hcallee controller
  refine ⟨hresponse, hphase, ?_⟩
  intro t ht
  by_cases hcall : v.callee? f = some t
  · exact hafter t hcall
  · -- neither core changes for a service that is not called
    have hc := alike_handle hcall c controller
    have hd := alike_handle hcall d controller
    exact (hc.trans (h.others t ht)).trans hd.symm

/-- A call that is addressed to `s` changes nothing but the part of `s`, and
asks nothing of the controller. -/
theorem agreeBut_handle (hs : v.addressee? f = some s) (core : Core) (controller : γ) :
    (core.handle v f controller).controller = controller ∧
      AgreeBut s (core.handle v f controller).core core := by
  obtain ⟨found, -⟩ := TrapVector.addressee?_eq_some_iff.mp hs
  refine ⟨controller_of_call found controller, phase_of_call found core controller, ?_⟩
  intro t ht
  refine alike_handle ?_ core controller
  intro hcall
  exact ht (Option.some.inj ((TrapVector.addressee?_of_callee? hcall).symm.trans hs))

/-- So no trap at all, if both cores handle it, sets them further apart. -/
theorem AgreeBut.step (h : AgreeBut s c d) (v : TrapVector) (f : Frame) (controller : γ) :
    (c.handle v f controller).controller = (d.handle v f controller).controller ∧
      AgreeBut s (c.handle v f controller).core (d.handle v f controller).core := by
  by_cases hcall : v.callee? f = some s
  · -- what comes of the call may differ, but it stays within `s`
    have haddressed := TrapVector.addressee?_of_callee? hcall
    obtain ⟨hc, hcore⟩ := agreeBut_handle haddressed c controller
    obtain ⟨hd, hcore'⟩ := agreeBut_handle haddressed d controller
    exact ⟨hc.trans hd.symm, (hcore.trans h).trans hcore'.symm⟩
  · obtain ⟨hresponse, hcore⟩ := h.handle hcall controller
    exact ⟨congrArg Response.controller hresponse, hcore⟩

/-- Nor does a run of traps. -/
theorem AgreeBut.run (h : AgreeBut s c d) (controller : γ) (traps : List (TrapVector × Frame)) :
    c.controllerAfter controller traps = d.controllerAfter controller traps ∧
      AgreeBut s (c.coreAfter controller traps) (d.coreAfter controller traps) := by
  induction traps generalizing c d controller with
  | nil => exact ⟨rfl, h⟩
  | cons t rest ih =>
    obtain ⟨v, f⟩ := t
    obtain ⟨hcontroller, hcore⟩ := h.step v f controller
    rw [controllerAfter_cons, controllerAfter_cons, coreAfter_cons, coreAfter_cons, hcontroller]
    exact ih hcore _

end Core

end SecureMonitor
