/-
SecureMonitor/Proofs/Serving.lean

What serving a call does, case by case.  A service either replies or
refuses, and the core either goes on as the reply asks or refuses in its
turn; so a call can fail after its service has acted.

* a service that refuses a call has changed nothing (`Services.serve_of_error`), so that
  a refusal can also be told without the state after it (`Services.handle_eq_error_iff`);
* what comes of a call is written out for each service (`perform_tsp`,
  `perform_optee`, `perform_custom`), and the rest follows from that;
* `Completes` lists the four ways in which a call completes, each with its
  guards, the frame that the core goes on with and the core afterwards
  (`completes_of_perform`);
* a refused call leaves the core as it was (`perform_cases`, `perform_core_of_error`),
  also where the refusal comes late: only the applets ask for a world switch, and serving
  an applet call changes no state of any service (`serve_of_resume_error`).
-/
import SecureMonitor.Core
import SecureMonitor.Proofs.Frame

namespace SecureMonitor

/-! ### The services one by one -/

theorem Tsp.handle_ok {t t' : Tsp} {fn : TspFunction} {request : Request} {reply : Reply}
    (h : t.handle fn request = (.ok reply, t')) :
    t.obstacle fn = none ∧ t' = fn.after t ∧
      ∃ results, fn.results request.id.width request.operands = .ok results ∧
        reply = ⟨fn.event, results, fn.resume request.operands.x1⟩ := by
  unfold Tsp.handle at h
  split at h
  · cases h
  · rename_i hready
    split at h
    · cases h
    · rename_i results hresults
      cases h
      exact ⟨hready, rfl, results, hresults, rfl⟩

/-- The test payload refuses a call for its state, or else for its arguments, and stays in
that state. -/
theorem Tsp.handle_error {t : Tsp} {fn : TspFunction} {request : Request} {why : Refusal}
    (h : (t.handle fn request).1 = .error why) :
    (t.handle fn request).2 = t ∧
      ((∃ denial, t.obstacle fn = some denial ∧ why = .denied denial) ∨
        (t.obstacle fn = none ∧
          fn.results request.id.width request.operands = .error why)) := by
  cases hobstacle : t.obstacle fn with
  | some denial =>
    have hhandle : t.handle fn request = (.error (.denied denial), t) := by
      simp only [Tsp.handle, hobstacle]
    rw [hhandle] at h ⊢
    cases h
    exact ⟨rfl, .inl ⟨denial, rfl, rfl⟩⟩
  | none =>
    cases hresults : fn.results request.id.width request.operands with
    | error refused =>
      have hhandle : t.handle fn request = (.error refused, t) := by
        simp only [Tsp.handle, hobstacle, hresults]
      rw [hhandle] at h ⊢
      cases h
      exact ⟨rfl, .inr ⟨rfl, rfl⟩⟩
    | ok results =>
      simp only [Tsp.handle, hobstacle, hresults] at h
      cases h

theorem OpTee.handle_ok {s s' : OpTee} {fn : OpTeeFunction} {request : Request} {reply : Reply}
    (h : s.handle fn request = (.ok reply, s')) :
    reply.event = .opteeEntryDone ∧ reply.resume = .caller := by
  cases fn with
  | log => cases h; exact ⟨rfl, rfl⟩
  | callWithArg =>
    simp only [OpTee.handle] at h
    split at h
    · cases h; exact ⟨rfl, rfl⟩
    · cases h
  | callsRevision => cases h; exact ⟨rfl, rfl⟩

/-- The message interface refuses a call for its type only, and has counted nothing then. -/
theorem OpTee.handle_error {s : OpTee} {fn : OpTeeFunction} {request : Request} {why : Refusal}
    (h : (s.handle fn request).1 = .error why) :
    (s.handle fn request).2 = s ∧ why = .malformed .callTypeMismatch := by
  cases fn with
  | log => cases h
  | callWithArg =>
    by_cases hyielding : request.id.callType = .yielding
    · simp only [OpTee.handle, if_pos hyielding] at h
      cases h
    · have hhandle : s.handle .callWithArg request = (.error (.malformed .callTypeMismatch), s) :=
        if_neg hyielding
      rw [hhandle] at h ⊢
      cases h
      exact ⟨rfl, rfl⟩
  | callsRevision => cases h

theorem Applets.handle_leave_ok {a : Applets} {request : Request} {reply : Reply}
    (h : a.handle .leave request = .ok reply) :
    request.caller = some .secure ∧
      reply = ⟨.customEntryDone, { x1 := request.operands.x1 }, .restore⟩ := by
  simp only [Applets.handle] at h
  split at h
  · rename_i hcaller
    cases h
    exact ⟨hcaller, rfl⟩
  · cases h
  · cases h

theorem Applets.handle_invoke_ok {a : Applets} {slot : Fin appletSlots} {request : Request}
    {reply : Reply} (h : a.handle (.invoke slot) request = .ok reply) :
    request.caller ≠ some .secure ∧ ∃ x, a.get? slot = some x ∧
      reply = ⟨.customEntryDone, request.operands, .enter .secure x.entry x.stack⟩ := by
  simp only [Applets.handle] at h
  split at h
  · cases h
  · rename_i hcaller
    split at h
    · cases h
    · rename_i x hx
      cases h
      exact ⟨hcaller, x, hx, rfl⟩

/-- The applets refuse a call in one way only. -/
theorem Applets.handle_error {a : Applets} {fn : AppletFunction} {request : Request}
    {why : Refusal} (h : a.handle fn request = .error why) : ∃ denial, why = .denied denial := by
  cases fn with
  | leave =>
    simp only [Applets.handle] at h
    split at h <;> cases h
    · exact ⟨_, rfl⟩
    · exact ⟨_, rfl⟩
  | invoke slot =>
    simp only [Applets.handle] at h
    split at h
    · cases h
      exact ⟨_, rfl⟩
    · split at h <;> cases h
      exact ⟨_, rfl⟩

/-! ### The services together -/

namespace Services

variable {s s' : Services} {call : Call} {request : Request} {reply : Reply} {why : Refusal}

/-- A service that refuses a call has changed nothing by then. -/
theorem serve_of_error (h : s.serve call request = (.error why, s')) : s' = s := by
  have hanswer : (s.serve call request).1 = .error why := congrArg Prod.fst h
  obtain rfl : (s.serve call request).2 = s' := congrArg Prod.snd h
  cases call with
  | tsp fn => exact congrArg ({ s with tsp := · }) (Tsp.handle_error hanswer).1
  | optee fn => exact congrArg ({ s with optee := · }) (OpTee.handle_error hanswer).1
  | custom fn => rfl

theorem handle_eq_ok_iff :
    s.handle call request = .ok (reply, s') ↔ s.serve call request = (.ok reply, s') := by
  rcases hserve : s.serve call request with ⟨_ | given, after⟩
  · simp [handle, hserve, Except.map]
  · simp [handle, hserve, Except.map]

/-- So nothing is lost when a refusal is told without the services after it. -/
theorem handle_eq_error_iff :
    s.handle call request = .error why ↔ s.serve call request = (.error why, s) := by
  rcases hserve : s.serve call request with ⟨given | reply, after⟩
  · obtain rfl := serve_of_error hserve
    simp [handle, hserve, Except.map]
  · simp [handle, hserve, Except.map]

end Services

/-! ### Going on -/

/-- A jump moves the frame on; anything else a context can ask for itself
leaves it where it is. -/
def Frame.goOn (f : Frame) : Resume → Frame
  | .jump entry => { f with elr := entry }
  | .caller | .enter .. | .restore => f

@[simp] theorem Frame.scr_goOn (f : Frame) (r : Resume) : (f.goOn r).scr = f.scr := by
  cases r <;> rfl

namespace Core

/-- No power function asks for another world, so the core goes on as told. -/
theorem resume_tsp (core : Core) (f : Frame) (fn : TspFunction) (x1 : UInt64) :
    core.resume f (fn.resume x1) = .ok (f.goOn (fn.resume x1), core.parked) := by
  cases fn with
  | cpuOn | cpuSuspend =>
    by_cases h : x1 = 0 <;> simp [TspFunction.resume, h, resume, Frame.goOn]
  | _ => rfl

/-- So there is nothing to tell about going on. -/
theorem resumeNotices_tsp (core : Core) (fn : TspFunction) (x1 : UInt64) :
    core.resumeNotices (fn.resume x1) = [] := by
  cases fn with
  | cpuOn | cpuSuspend =>
    by_cases h : x1 = 0 <;> simp [TspFunction.resume, h, resumeNotices]
  | _ => rfl

theorem canSwitchWorlds_eq_true_iff {level : Level} :
    level.canSwitchWorlds = true ↔ level = .el3 := by
  cases level <;> simp [Level.canSwitchWorlds]

theorem resume_enter_ok {core : Core} {f next : Frame} {parked : Option Frame} {w : World}
    {entry stack : UInt64} (h : core.resume f (.enter w entry stack) = .ok (next, parked)) :
    core.level = .el3 ∧ core.parked = none ∧ next = f.entering w entry stack ∧
      parked = some f := by
  simp only [resume] at h
  split at h
  · cases h
  · rename_i hlevel
    split at h
    · cases h
    · rename_i hparked
      cases h
      exact ⟨canSwitchWorlds_eq_true_iff.mp (by simpa using hlevel), hparked, rfl, rfl⟩

theorem resume_restore_ok {core : Core} {f next : Frame} {parked : Option Frame}
    (h : core.resume f .restore = .ok (next, parked)) :
    core.level = .el3 ∧ core.parked = some next ∧ parked = none := by
  simp only [resume] at h
  split at h
  · cases h
  · rename_i hlevel
    split at h
    · rename_i hparked
      cases h
      exact ⟨canSwitchWorlds_eq_true_iff.mp (by simpa using hlevel), hparked, rfl⟩
    · cases h

/-! ### Serving a call -/

section

variable {core : Core} {f : Frame} {id : CallId} {call : Call} {why : Refusal} {reply : Reply}
  {services : Services}

/-- The service refuses. -/
theorem perform_of_serve_error
    (hs : core.services.serve call (core.request f id) = (.error why, services)) :
    core.perform f id call =
      ⟨.error why, { core with phase := .returning, services := services },
        core.services.notices call (core.request f id)⟩ := by
  simp only [perform, hs]

/-- The service replies, but the core cannot go on as the reply says.  The new
state of the services has no say in that. -/
theorem perform_of_resume_error
    (hs : core.services.serve call (core.request f id) = (.ok reply, services))
    (hr : core.resume f reply.resume = .error why) :
    core.perform f id call =
      ⟨.error why, { core with phase := .returning, services := services },
        core.services.notices call (core.request f id) ++ core.resumeNotices reply.resume⟩ := by
  have hsame : ({ core with phase := .returning, services := services } : Core).resume f
      reply.resume = core.resume f reply.resume := rfl
  simp only [perform, hs, hsame, hr]
  rfl

/-- The service replies and the core goes on as the reply says. -/
theorem perform_of_resume_ok {next : Frame} {parked : Option Frame}
    (hs : core.services.serve call (core.request f id) = (.ok reply, services))
    (hr : core.resume f reply.resume = .ok (next, parked)) :
    core.perform f id call =
      ⟨.ok (reply.event, next.writeReturn reply.event.value reply.results),
        { core with phase := .returning, services := services, parked := parked },
        core.services.notices call (core.request f id) ++ core.resumeNotices reply.resume⟩ := by
  have hsame : ({ core with phase := .returning, services := services } : Core).resume f
      reply.resume = core.resume f reply.resume := rfl
  simp only [perform, hs, hsame, hr]
  rfl

end

/-! Serving a call service by service.  The test payload and the message
interface have the last word on their calls; only a call to an applet depends
on what the core can do. -/

theorem perform_tsp (core : Core) (f : Frame) (id : CallId) (fn : TspFunction) :
    core.perform f id (.tsp fn) =
      let (answer, tsp) := core.services.tsp.handle fn (core.request f id)
      ⟨answer.map fun reply =>
          (reply.event, (f.goOn reply.resume).writeReturn reply.event.value reply.results),
        { core with phase := .returning, services := { core.services with tsp := tsp } },
        core.services.tsp.notices fn⟩ := by
  rcases hserve : core.services.tsp.handle fn (core.request f id) with ⟨why | reply, tsp⟩
  · have hs : core.services.serve (.tsp fn) (core.request f id) =
        (.error why, { core.services with tsp := tsp }) := by
      rw [Services.serve, hserve]
    exact perform_of_serve_error hs
  · have hs : core.services.serve (.tsp fn) (core.request f id) =
        (.ok reply, { core.services with tsp := tsp }) := by
      rw [Services.serve, hserve]
    obtain ⟨-, -, results, -, rfl⟩ := Tsp.handle_ok hserve
    rw [perform_of_resume_ok hs (resume_tsp core f fn _), resumeNotices_tsp, List.append_nil]
    rfl

theorem perform_optee (core : Core) (f : Frame) (id : CallId) (fn : OpTeeFunction) :
    core.perform f id (.optee fn) =
      let (answer, optee) := core.services.optee.handle fn (core.request f id)
      ⟨answer.map fun reply => (reply.event, f.writeReturn reply.event.value reply.results),
        { core with phase := .returning, services := { core.services with optee := optee } },
        OpTee.notices fn (core.request f id)⟩ := by
  rcases hserve : core.services.optee.handle fn (core.request f id) with ⟨why | reply, optee⟩
  · have hs : core.services.serve (.optee fn) (core.request f id) =
        (.error why, { core.services with optee := optee }) := by
      rw [Services.serve, hserve]
    exact perform_of_serve_error hs
  · have hs : core.services.serve (.optee fn) (core.request f id) =
        (.ok reply, { core.services with optee := optee }) := by
      rw [Services.serve, hserve]
    have hresume := (OpTee.handle_ok hserve).2
    have hr : core.resume f reply.resume = .ok (f, core.parked) := by rw [hresume]; rfl
    rw [perform_of_resume_ok hs hr, hresume]
    exact congrArg (Performed.mk _ _) (List.append_nil _)

theorem perform_custom (core : Core) (f : Frame) (id : CallId) (fn : AppletFunction) :
    core.perform f id (.custom fn) =
      match core.services.applets.handle fn (core.request f id) with
      | .error why => ⟨.error why, { core with phase := .returning }, []⟩
      | .ok reply =>
        match core.resume f reply.resume with
        | .error why =>
          ⟨.error why, { core with phase := .returning }, core.resumeNotices reply.resume⟩
        | .ok (next, parked) =>
          ⟨.ok (reply.event, next.writeReturn reply.event.value reply.results),
            { core with phase := .returning, parked := parked },
            core.resumeNotices reply.resume⟩ := by
  cases hserve : core.services.applets.handle fn (core.request f id) with
  | error why =>
    have hs : core.services.serve (.custom fn) (core.request f id) =
        (.error why, core.services) := by
      rw [Services.serve, hserve]
    exact perform_of_serve_error hs
  | ok reply =>
    have hs : core.services.serve (.custom fn) (core.request f id) =
        (.ok reply, core.services) := by
      rw [Services.serve, hserve]
    cases hr : core.resume f reply.resume with
    | error why =>
      rw [perform_of_resume_error hs hr]
      simp only [hr]
      rfl
    | ok going =>
      rw [perform_of_resume_ok hs hr]
      simp only [hr]
      rfl

/-- What is made of a reply makes no refusal. -/
theorem refused_of_map {α β : Type} {g : α → β} {answer : Except Refusal α} {why : Refusal}
    (h : answer.map g = .error why) : answer = .error why := by
  cases answer with
  | error given =>
    cases h
    rfl
  | ok reply => cases h

/-- A call to the test payload is refused by the payload or not at all. -/
theorem perform_tsp_error {core : Core} {f : Frame} {id : CallId} {fn : TspFunction}
    {why : Refusal} (h : (core.perform f id (.tsp fn)).result = .error why) :
    (core.services.tsp.handle fn (core.request f id)).1 = .error why := by
  rw [perform_tsp] at h
  exact refused_of_map h

/-- Where the core cannot go on, there was nothing for the service to change.  Only a call
to an applet asks for more than every core can do, and applets keep no account of their
calls. -/
theorem serve_of_resume_error {core : Core} {f : Frame} {id : CallId} {call : Call}
    {reply : Reply} {services : Services} {why : Refusal}
    (hs : core.services.serve call (core.request f id) = (.ok reply, services))
    (hr : core.resume f reply.resume = .error why) : services = core.services := by
  have hanswer : (core.services.serve call (core.request f id)).1 = .ok reply :=
    congrArg Prod.fst hs
  obtain rfl : (core.services.serve call (core.request f id)).2 = services :=
    congrArg Prod.snd hs
  cases call with
  | tsp fn =>
    obtain ⟨-, -, results, -, rfl⟩ := Tsp.handle_ok (Prod.ext hanswer rfl)
    exact nomatch (resume_tsp core f fn _).symm.trans hr
  | optee fn =>
    rw [(OpTee.handle_ok (Prod.ext hanswer rfl)).2] at hr
    cases hr
  | custom fn => rfl

/-- What serving a call comes to.  The service refuses, or it replies and the core cannot go
on, and in both cases the core is as it was; or it replies and the core goes on. -/
theorem perform_cases (core : Core) (f : Frame) (id : CallId) (call : Call) :
    (∃ why, core.services.serve call (core.request f id) = (.error why, core.services) ∧
        (core.perform f id call).result = .error why ∧
        (core.perform f id call).core = { core with phase := .returning }) ∨
      (∃ reply services why,
        core.services.serve call (core.request f id) = (.ok reply, services) ∧
        core.resume f reply.resume = .error why ∧
        (core.perform f id call).result = .error why ∧
        (core.perform f id call).core = { core with phase := .returning }) ∨
      ∃ reply services next parked,
        core.services.serve call (core.request f id) = (.ok reply, services) ∧
        core.resume f reply.resume = .ok (next, parked) ∧
        (core.perform f id call).result =
          .ok (reply.event, next.writeReturn reply.event.value reply.results) ∧
        (core.perform f id call).core =
          { core with phase := .returning, services := services, parked := parked } := by
  rcases hserve : core.services.serve call (core.request f id) with ⟨why | reply, services⟩
  · obtain rfl := Services.serve_of_error hserve
    refine .inl ⟨why, rfl, ?_, ?_⟩ <;> rw [perform_of_serve_error hserve]
  · cases hr : core.resume f reply.resume with
    | error why =>
      obtain rfl := serve_of_resume_error hserve hr
      refine .inr (.inl ⟨reply, _, why, rfl, hr, ?_, ?_⟩) <;>
        rw [perform_of_resume_error hserve hr]
    | ok going =>
      refine .inr (.inr ⟨reply, services, going.1, going.2, rfl, hr, ?_, ?_⟩) <;>
        rw [perform_of_resume_ok hserve hr]

/-- A refused call leaves the core as it was.  The service has handed a state back by
then, be it with its own refusal or before the core finds that it cannot go on. -/
theorem perform_core_of_error {core : Core} {f : Frame} {id : CallId} {call : Call}
    {why : Refusal} (h : (core.perform f id call).result = .error why) :
    (core.perform f id call).core = { core with phase := .returning } := by
  rcases core.perform_cases f id call with
    ⟨_, -, -, hcore⟩ | ⟨_, _, _, -, -, -, hcore⟩ | ⟨_, _, _, _, -, -, hresult, -⟩
  · exact hcore
  · exact hcore
  · exact nomatch hresult.symm.trans h

/-! ### Completing -/

/-- How a call completes: the event, the frame that the core goes on with,
and the core afterwards. -/
inductive Completes (core : Core) (f : Frame) (id : CallId) :
    Call → Event → Frame → Core → Prop
  /-- The test payload acts in a state that suits the function. -/
  | tsp {fn : TspFunction} {results : Operands}
      (ready : core.services.tsp.obstacle fn = none)
      (computed : fn.results id.width f.operands = .ok results) :
      Completes core f id (.tsp fn) fn.event
        ((f.goOn (fn.resume (f.arg 1))).writeReturn fn.event.value results)
        { core with services := { core.services with tsp := fn.after core.services.tsp } }
  /-- The message interface answers. -/
  | optee {fn : OpTeeFunction} {reply : Reply} {optee : OpTee}
      (served : core.services.optee.handle fn (core.request f id) = (.ok reply, optee)) :
      Completes core f id (.optee fn) .opteeEntryDone
        (f.writeReturn Event.opteeEntryDone.value reply.results)
        { core with services := { core.services with optee := optee } }
  /-- The core parks its caller and enters an applet. -/
  | invoke {slot : Fin appletSlots} {x : Applet}
      (level : core.level = .el3) (caller : SecureConfig.world f.scr = .nonSecure)
      (free : core.parked = none) (registered : core.services.applets.get? slot = some x) :
      Completes core f id (.custom (.invoke slot)) .customEntryDone
        ((f.entering .secure x.entry x.stack).writeReturn Event.customEntryDone.value f.operands)
        { core with parked := some f }
  /-- The core drops the applet's frame and takes its caller's again. -/
  | leave {caller : Frame}
      (level : core.level = .el3) (world : SecureConfig.world f.scr = .secure)
      (parked : core.parked = some caller) :
      Completes core f id (.custom .leave) .customEntryDone
        (caller.writeReturn Event.customEntryDone.value { x1 := f.arg 1 })
        { core with parked := none }

/-- A monitor at EL3 knows its caller's world. -/
theorem caller_request (core : Core) (f : Frame) (id : CallId) (h : core.level = .el3) :
    (core.request f id).caller = some (SecureConfig.world f.scr) := by
  simp [request, Frame.world, h, Level.canSwitchWorlds]

/-- An applet call completes if the applets agree and the core can change worlds. -/
theorem completes_of_applets {core : Core} {f next : Frame} {id : CallId} {fn : AppletFunction}
    {reply : Reply} {parked : Option Frame}
    (hserve : core.services.applets.handle fn (core.request f id) = .ok reply)
    (hr : core.resume f reply.resume = .ok (next, parked)) :
    core.Completes f id (.custom fn) reply.event
      (next.writeReturn reply.event.value reply.results) { core with parked := parked } := by
  cases fn with
  | leave =>
    obtain ⟨hcaller, rfl⟩ := Applets.handle_leave_ok hserve
    obtain ⟨hlevel, hparked, rfl⟩ := resume_restore_ok hr
    rw [caller_request _ _ _ hlevel] at hcaller
    exact .leave hlevel (Option.some.inj hcaller) hparked
  | invoke slot =>
    obtain ⟨hcaller, x, hx, rfl⟩ := Applets.handle_invoke_ok hserve
    obtain ⟨hlevel, hparked, rfl, rfl⟩ := resume_enter_ok hr
    rw [caller_request _ _ _ hlevel] at hcaller
    have hworld : SecureConfig.world f.scr = .nonSecure := by
      cases hw : SecureConfig.world f.scr with
      | nonSecure => rfl
      | secure => exact absurd (congrArg some hw) hcaller
    exact .invoke hlevel hworld hparked hx

/-- Whatever completes does so in one of the four ways. -/
theorem completes_of_perform {core : Core} {f g : Frame} {id : CallId} {call : Call}
    {event : Event} (h : (core.perform f id call).result = .ok (event, g)) :
    core.Completes f id call event g
      { (core.perform f id call).core with phase := core.phase } := by
  cases call with
  | tsp fn =>
    rw [perform_tsp] at h ⊢
    rcases hserve : core.services.tsp.handle fn (core.request f id) with ⟨refused | reply, tsp⟩
    · rw [hserve] at h
      cases h
    · obtain ⟨hready, rfl, results, hresults, rfl⟩ := Tsp.handle_ok hserve
      rw [hserve] at h
      cases h
      exact .tsp hready hresults
  | optee fn =>
    rw [perform_optee] at h ⊢
    rcases hserve : core.services.optee.handle fn (core.request f id) with
      ⟨refused | reply, optee⟩
    · rw [hserve] at h
      cases h
    · rw [hserve] at h
      cases h
      rw [(OpTee.handle_ok hserve).1]
      exact .optee hserve
  | custom fn =>
    rw [perform_custom] at h ⊢
    cases hserve : core.services.applets.handle fn (core.request f id) with
    | error refused =>
      rw [hserve] at h
      cases h
    | ok reply =>
      simp only [hserve] at h ⊢
      cases hr : core.resume f reply.resume with
      | error refused =>
        rw [hr] at h
        cases h
      | ok going =>
        obtain ⟨next, parked⟩ := going
        rw [hr] at h
        cases h
        exact completes_of_applets hserve hr

end Core

end SecureMonitor
