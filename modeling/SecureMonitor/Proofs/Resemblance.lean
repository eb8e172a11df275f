/-
SecureMonitor/Proofs/Resemblance.lean

Two cores side by side that are the same but for a parked caller.  Both are
handed traps that put the same question: they are on the same vector, and their
frames agree in all that a core looks at when it decides (`AsksAlike`).  The
rest of a frame is context.  It is carried along, parked and taken out again,
and nothing is decided by it, so that

    what differs in the traps   stays in the contexts
    what is decided             is the same

How far the contexts may differ is a relation `R` between frames.  All that is
asked of it is that it lasts when a context goes on elsewhere and when an applet
is entered from it (`Frame.Lasting`).  Then `Resembles R` is kept by each trap
(`Resembles.handle`) and so by a run (`Resembles.run`), and what is answered is
answered alike, written over related contexts (`Resembles.frames`).
-/
import Mathlib.Data.List.Forall2
import SecureMonitor.Proofs.Run

namespace SecureMonitor

/-! ### Contexts -/

/-- A relation between contexts that lasts when both go on elsewhere. -/
structure Frame.Lasting (R : Frame → Frame → Prop) : Prop where
  jump : ∀ {f g : Frame} (entry : UInt64), R f g → R { f with elr := entry } { g with elr := entry }
  enter : ∀ {f g : Frame} (w : World) (entry stack : UInt64), R f g →
    R (f.entering w entry stack) (g.entering w entry stack)

/-- Two frames that trapped on `v` ask the same of a core, from contexts that
are related by `R`. -/
structure TrapVector.AsksAlike (R : Frame → Frame → Prop) (v : TrapVector) (f g : Frame) :
    Prop where
  disposition : v.disposition f.esr = v.disposition g.esr
  route : Call.route v.origin f.callId = Call.route v.origin g.callId
  operands : f.operands = g.operands
  world : SecureConfig.world f.scr = SecureConfig.world g.scr
  context : R f g

/-- Two traps on the same vector ask the same. -/
def AskAlike (R : Frame → Frame → Prop) (t u : TrapVector × Frame) : Prop :=
  t.1 = u.1 ∧ t.1.AsksAlike R t.2 u.2

namespace Core

/-- Two cores are the same but for their parked callers, which are related by `R`. -/
structure Resembles (R : Frame → Frame → Prop) (c d : Core) : Prop where
  level : c.level = d.level
  phase : c.phase = d.phase
  services : c.services = d.services
  parked : Option.Rel R c.parked d.parked

variable {R : Frame → Frame → Prop} {c d : Core} {v : TrapVector} {f g : Frame}

theorem resembles_refl_of_unparked (h : c.parked = none) : Resembles R c c where
  level := rfl
  phase := rfl
  services := rfl
  parked := by
    rw [h]
    exact .none

theorem Resembles.of_phase (h : Resembles R c d) (p : Phase) :
    Resembles R { c with phase := p } { d with phase := p } :=
  ⟨h.level, rfl, h.services, h.parked⟩

theorem Resembles.isSome_parked (h : Resembles R c d) : c.parked.isSome = d.parked.isSome := by
  obtain ⟨-, -, -, hparked⟩ := h
  generalize c.parked = callers at hparked ⊢
  generalize d.parked = callers' at hparked ⊢
  cases hparked with
  | none => rfl
  | some _ => rfl

/-! ### Serving a call -/

/-- Both cores go on, in related contexts, or neither does. -/
theorem Resembles.resume (h : Resembles R c d) (hR : Frame.Lasting R) (hctx : R f g)
    (r : Resume) :
    (∃ why, c.resume f r = .error why ∧ d.resume g r = .error why) ∨
      ∃ p q callers callers', c.resume f r = .ok (p, callers) ∧ d.resume g r = .ok (q, callers') ∧
        R p q ∧ Option.Rel R callers callers' := by
  obtain ⟨hlevel, -, -, hparked⟩ := h
  cases r with
  | caller => exact .inr ⟨_, _, _, _, rfl, rfl, hctx, hparked⟩
  | jump entry => exact .inr ⟨_, _, _, _, rfl, rfl, hR.jump entry hctx, hparked⟩
  | enter w entry stack =>
    simp only [Core.resume, hlevel]
    by_cases hswitch : d.level.canSwitchWorlds = false
    · simp only [if_pos hswitch]
      exact .inl ⟨_, rfl, rfl⟩
    · simp only [if_neg hswitch]
      generalize c.parked = callers at hparked
      generalize d.parked = callers' at hparked
      cases hparked with
      | none => exact .inr ⟨_, _, _, _, rfl, rfl, hR.enter w entry stack hctx, .some hctx⟩
      | some _ => exact .inl ⟨_, rfl, rfl⟩
  | restore =>
    simp only [Core.resume, hlevel]
    by_cases hswitch : d.level.canSwitchWorlds = false
    · simp only [if_pos hswitch]
      exact .inl ⟨_, rfl, rfl⟩
    · simp only [if_neg hswitch]
      generalize c.parked = callers at hparked
      generalize d.parked = callers' at hparked
      cases hparked with
      | none => exact .inl ⟨_, rfl, rfl⟩
      | some hcaller => exact .inr ⟨_, _, _, _, rfl, rfl, hcaller, .none⟩

/-- Both cores refuse a call alike, or it completes on both with the same
answer over related contexts. -/
theorem Resembles.perform (h : Resembles R c d) (hR : Frame.Lasting R) (hask : v.AsksAlike R f g)
    (id : CallId) (call : Call) :
    (∃ why, (c.perform f id call).result = .error why ∧
        (d.perform g id call).result = .error why) ∨
      ∃ event p q results, R p q ∧
        (c.perform f id call).result = .ok (event, p.writeReturn event.value results) ∧
        (d.perform g id call).result = .ok (event, q.writeReturn event.value results) ∧
        Resembles R (c.perform f id call).core (d.perform g id call).core := by
  have hrequest : c.request f id = d.request g id := by
    rw [request, request, hask.operands, Frame.world, Frame.world, h.level, hask.world]
  have hserve : c.services.serve call (c.request f id) =
      d.services.serve call (d.request g id) := by
    rw [h.services, hrequest]
  rcases hd : d.services.serve call (d.request g id) with ⟨why | reply, services⟩
  · rw [perform_of_serve_error (hserve.trans hd), perform_of_serve_error hd]
    exact .inl ⟨why, rfl, rfl⟩
  · rcases h.resume hR hask.context reply.resume with
      ⟨why, hc', hd'⟩ | ⟨p, q, callers, callers', hc', hd', hctx, hparked⟩
    · rw [perform_of_resume_error (hserve.trans hd) hc', perform_of_resume_error hd hd']
      exact .inl ⟨why, rfl, rfl⟩
    · rw [perform_of_resume_ok (hserve.trans hd) hc', perform_of_resume_ok hd hd']
      exact .inr ⟨reply.event, p, q, reply.results, hctx, rfl, rfl, h.level, rfl, rfl, hparked⟩

/-! ### One trap -/

variable {γ : Type} [InterruptController γ]

/-- A call comes back from both cores with the same answer over related contexts. -/
theorem Resembles.handle_call (h : Resembles R c d) (hR : Frame.Lasting R)
    (hask : v.AsksAlike R f g) (awake : d.phase ≠ .halted) (found : v.disposition g.esr = .call)
    (controller : γ) :
    (c.handle v f controller).result = (d.handle v g controller).result ∧
      (c.handle v f controller).controller = (d.handle v g controller).controller ∧
      Resembles R (c.handle v f controller).core (d.handle v g controller).core ∧
      ∃ p q x0 results, R p q ∧ (c.handle v f controller).frame = p.writeReturn x0 results ∧
        (d.handle v g controller).frame = q.writeReturn x0 results := by
  have found' : v.disposition f.esr = .call := hask.disposition.trans found
  by_cases hi : d.phase = .idle
  · have hi' : c.phase = .idle := h.phase.trans hi
    cases routed : Call.route v.origin g.callId with
    | error why =>
      rw [handle_of_astray hi found routed,
        handle_of_astray hi' found' (hask.route.trans routed)]
      exact ⟨rfl, rfl, h, f, g, why.value, {}, hask.context, rfl, rfl⟩
    | ok asked =>
      obtain ⟨id, call⟩ := asked
      have routed' := hask.route.trans routed
      rcases h.perform hR hask id call with
        ⟨why, hc, hd⟩ | ⟨event, p, q, results, hctx, hc, hd, hcore⟩
      · rw [handle_of_unserved hi found routed hd, handle_of_unserved hi' found' routed' hc]
        exact ⟨rfl, rfl, h, f, g, why.value, {}, hask.context, rfl, rfl⟩
      · rw [handle_of_served hi found routed hd, handle_of_served hi' found' routed' hc]
        exact ⟨rfl, rfl, hcore.of_phase .idle, p, q, event.value, results, hctx, rfl, rfl⟩
  · -- a busy core looks at neither the call nor itself
    obtain ⟨hresult, hframe, hcontroller, hcore⟩ :=
      handle_of_nested_call hi awake found controller
    obtain ⟨hresult', hframe', hcontroller', hcore'⟩ :=
      handle_of_nested_call (h.phase ▸ hi) (h.phase ▸ awake) found' controller
    rw [hresult, hresult', hcontroller, hcontroller', hcore, hcore', hframe, hframe']
    exact ⟨rfl, rfl, h, f, g, _, _, hask.context, rfl, rfl⟩

/-- Any trap comes to the same on both cores and leaves them as alike as they were. -/
theorem Resembles.handle (h : Resembles R c d) (hR : Frame.Lasting R) (hask : v.AsksAlike R f g)
    (controller : γ) :
    (c.handle v f controller).result = (d.handle v g controller).result ∧
      (c.handle v f controller).controller = (d.handle v g controller).controller ∧
      Resembles R (c.handle v f controller).core (d.handle v g controller).core := by
  by_cases hh : d.phase = .halted
  · rw [handle_of_halted hh, handle_of_halted (h.phase.trans hh)]
    exact ⟨rfl, rfl, h⟩
  · have hh' : c.phase ≠ .halted := h.phase ▸ hh
    cases found : v.disposition g.esr with
    | fatal fault =>
      obtain ⟨hresult, -, hcontroller, hcore⟩ := handle_of_fatal hh found controller
      obtain ⟨hresult', -, hcontroller', hcore'⟩ :=
        handle_of_fatal hh' (hask.disposition.trans found) controller
      rw [hresult, hresult', hcontroller, hcontroller', hcore, hcore']
      exact ⟨rfl, rfl, h.of_phase .halted⟩
    | forward =>
      obtain ⟨hresult, -, hcontroller, hcore⟩ := handle_of_forward hh found controller
      obtain ⟨hresult', -, hcontroller', hcore'⟩ :=
        handle_of_forward hh' (hask.disposition.trans found) controller
      rw [hresult, hresult', hcontroller, hcontroller', hcore, hcore']
      exact ⟨rfl, rfl, h⟩
    | call =>
      obtain ⟨hresult, hcontroller, hcore, -⟩ := h.handle_call hR hask hh found controller
      exact ⟨hresult, hcontroller, hcore⟩

/-- The frames that both cores go on with: the same answer over related
contexts, or the frames that trapped, because the core has halted or was not
called. -/
theorem Resembles.frames (h : Resembles R c d) (hR : Frame.Lasting R) (hask : v.AsksAlike R f g)
    (controller : γ) :
    (∃ p q x0 results, R p q ∧ (c.handle v f controller).frame = p.writeReturn x0 results ∧
        (d.handle v g controller).frame = q.writeReturn x0 results) ∨
      ((c.handle v f controller).frame = f ∧ (d.handle v g controller).frame = g ∧
        ¬(c.phase ≠ .halted ∧ v.disposition f.esr = .call)) := by
  by_cases hanswer : c.phase ≠ .halted ∧ v.disposition f.esr = .call
  · have hanswer' : d.phase ≠ .halted ∧ v.disposition g.esr = .call :=
      ⟨h.phase ▸ hanswer.1, hask.disposition.symm.trans hanswer.2⟩
    obtain ⟨-, -, -, hframes⟩ := h.handle_call hR hask hanswer'.1 hanswer'.2 controller
    exact .inl hframes
  · have hanswer' : ¬(d.phase ≠ .halted ∧ v.disposition g.esr = .call) := by
      rw [← h.phase, ← hask.disposition]
      exact hanswer
    exact .inr ⟨(answers_no_other hanswer controller).1, (answers_no_other hanswer' controller).1,
      hanswer⟩

/-! ### Runs -/

/-- Traps that ask alike leave two cores as alike as they found them. -/
theorem Resembles.run (h : Resembles R c d) (hR : Frame.Lasting R)
    {traps others : List (TrapVector × Frame)} (hask : List.Forall₂ (AskAlike R) traps others)
    (controller : γ) :
    c.controllerAfter controller traps = d.controllerAfter controller others ∧
      Resembles R (c.coreAfter controller traps) (d.coreAfter controller others) := by
  induction hask generalizing c d controller with
  | nil => exact ⟨rfl, h⟩
  | @cons t u traps others htrap _ ih =>
    obtain ⟨v, f⟩ := t
    obtain ⟨w, g⟩ := u
    obtain ⟨rfl, hask⟩ := htrap
    obtain ⟨-, hcontroller, hcore⟩ := h.handle hR hask controller
    rw [controllerAfter_cons, controllerAfter_cons, coreAfter_cons, coreAfter_cons, hcontroller]
    exact ih hcore _

/-- What holds of the two responses to any traps related by `T`, holds of those
to each trap of a run. -/
theorem Resembles.responses {T : TrapVector × Frame → TrapVector × Frame → Prop}
    {S : Response γ → Response γ → Prop} (h : Resembles R c d) (hR : Frame.Lasting R)
    (hask : ∀ t u, T t u → AskAlike R t u)
    (hstep : ∀ {c d : Core} {v : TrapVector} {f g : Frame} (controller : γ), Resembles R c d →
      T (v, f) (v, g) → S (c.handle v f controller).toResponse (d.handle v g controller).toResponse)
    {traps others : List (TrapVector × Frame)} (ht : List.Forall₂ T traps others)
    (controller : γ) :
    List.Forall₂ S (c.responses controller traps) (d.responses controller others) := by
  induction ht generalizing c d controller with
  | nil => exact .nil
  | @cons t u traps others htrap _ ih =>
    have hboth := hask t u htrap
    obtain ⟨v, f⟩ := t
    obtain ⟨w, g⟩ := u
    obtain ⟨rfl, hasked⟩ := hboth
    obtain ⟨-, hcontroller, hcore⟩ := h.handle hR hasked controller
    rw [responses_cons, responses_cons]
    refine .cons (hstep controller h htrap) ?_
    rw [hcontroller]
    exact ih hcore _

end Core

end SecureMonitor
