/-
SecureMonitor/Proofs/Lifecycle.lean

The power state of the test payload, told from outside.  Of a run one sees
the events that its calls completed with (`completions`), and two questions
to them give back all that the payload keeps:

    on          after  on, resume, system reset
    off         after  off, system off
    suspended   after  suspend
    preempted   after  preempt, until  abort, off, system off, system reset

The payload's state is the fold of the events (`tsp_coreAfter`), since a
function leaves behind what its event announces (`after_eq_observe`), and so
only the last event that bears on a question counts (`foldl_observe`).  What
the payload admits next is then a matter of that history too (`Due`).
-/
import SecureMonitor.Interrupt.Queue
import SecureMonitor.Proofs.Run

namespace SecureMonitor

/-! ### What events tell -/

namespace Event

/-- The power state that an event announces. -/
def power? : Event → Option Power
  | onDone | resumeDone | systemResetDone => some .on
  | offDone | systemOffDone => some .off
  | suspendDone => some .suspended
  | entryDone | preempted | abortDone | opteeEntryDone | customEntryDone => none

/-- Whether a call is left preempted, where an event bears on it. -/
def preempted? : Event → Option Bool
  | preempted => some true
  | abortDone | offDone | systemOffDone | systemResetDone => some false
  | entryDone | onDone | suspendDone | resumeDone | opteeEntryDone | customEntryDone => none

/-- The power state after some events, which a core begins in "on". -/
def powerAfter (seen : List Event) : Power := (seen.filterMap power?).getLast?.getD .on

/-- Whether a call is preempted after some events; at the start none is. -/
def preemptedAfter (seen : List Event) : Bool := (seen.filterMap preempted?).getLast?.getD false

/-- If each event overwrites what it bears on, the last one that does so counts. -/
theorem foldl_getD {α : Type} (g : Event → Option α) (a : α) (events : List Event) :
    events.foldl (fun a e => (g e).getD a) a = (events.filterMap g).getLast?.getD a := by
  induction events generalizing a with
  | nil => rfl
  | cons e rest ih =>
    rw [List.foldl_cons, ih]
    cases he : g e with
    | none => rw [List.filterMap_cons_none he, Option.getD_none]
    | some b =>
      rw [List.filterMap_cons_some he, List.getLast?_cons, Option.getD_some, Option.getD_some]

end Event

namespace Tsp

/-- The state after an event. -/
def observe (t : Tsp) (e : Event) : Tsp :=
  { power := e.power?.getD t.power, preempted := e.preempted?.getD t.preempted }

theorem foldl_observe (t : Tsp) (events : List Event) :
    events.foldl observe t =
      { power := (events.filterMap Event.power?).getLast?.getD t.power
        preempted := (events.filterMap Event.preempted?).getLast?.getD t.preempted } := by
  rw [← Event.foldl_getD, ← Event.foldl_getD]
  induction events generalizing t with
  | nil => rfl
  | cons e rest ih =>
    rw [List.foldl_cons, ih]
    rfl

end Tsp

/-- A function leaves behind what its event announces. -/
theorem TspFunction.after_eq_observe (fn : TspFunction) (t : Tsp) :
    fn.after t = t.observe fn.event := by
  cases fn <;> rfl

/-! ### What the payload admits -/

namespace TspFunction

/-- The function can be served after these events. -/
def Due (seen : List Event) : TspFunction → Prop
  | cpuOn => Event.powerAfter seen = .off
  | cpuOff | cpuSuspend | preempt => Event.powerAfter seen = .on
  | cpuResume => Event.powerAfter seen = .suspended
  | abort => Event.preemptedAfter seen = true
  | entry | systemOff | systemReset | arithmetic _ => True

/-- Why the function is denied where it is not due. -/
def denial : TspFunction → Denial
  | abort => .noPreemptedCall
  | _ => .lifecycleState

/-- Only arithmetic looks at its arguments. -/
theorem results_eq_ok {fn : TspFunction} (h : ∀ op, fn ≠ .arithmetic op) (width : CallWidth)
    (args : Operands) : fn.results width args = .ok {} := by
  cases fn with
  | arithmetic op => exact absurd rfl (h op)
  | _ => rfl

end TspFunction

namespace Tsp

variable {t : Tsp} {seen : List Event} {fn : TspFunction}

/-- A payload whose state is that of its history is in the way of a function
exactly where the function is not due. -/
theorem obstacle_eq_none_of_due (hp : t.power = Event.powerAfter seen)
    (hc : t.preempted = Event.preemptedAfter seen) (h : fn.Due seen) : t.obstacle fn = none := by
  cases fn <;> simp_all [obstacle, TspFunction.startsFrom, TspFunction.Due]

theorem obstacle_eq_some_of_not_due (hp : t.power = Event.powerAfter seen)
    (hc : t.preempted = Event.preemptedAfter seen) (h : ¬fn.Due seen) :
    t.obstacle fn = some fn.denial := by
  cases fn <;> simp_all [obstacle, TspFunction.startsFrom, TspFunction.Due, TspFunction.denial]

/-- No call is preempted while the core is off. -/
def Coherent (t : Tsp) : Prop := t.power = .off → t.preempted = false

theorem Coherent.after (h : t.Coherent) (ready : t.obstacle fn = none) :
    (fn.after t).Coherent := by
  cases fn with
  | preempt =>
    -- only a core that is on has calls to preempt
    intro hoff
    change t.power = .off at hoff
    simp [obstacle, TspFunction.startsFrom, hoff] at ready
  | entry | arithmetic => exact h
  | abort => exact fun _ => rfl
  | cpuOff | systemOff => exact fun _ => rfl
  | cpuOn | cpuResume | cpuSuspend | systemReset =>
    intro hoff
    cases hoff

end Tsp

/-! ### One trap -/

variable {γ : Type}

/-- The event that a trap completed with, if it was a call that did. -/
def Response.event? (r : Response γ) : Option Event :=
  match r.result with
  | .ok (.completed event) => some event
  | _ => none

variable [InterruptController γ]

namespace Core

variable {core core' : Core} {v : TrapVector} {f g : Frame} {id : CallId} {call : Call}
  {event : Event} {controller : γ} {step : Step γ}

/-- A call changes the test payload as its event says, whatever service it is for. -/
theorem Completes.tsp_eq (h : core.Completes f id call event g core') :
    core'.services.tsp = core.services.tsp.observe event := by
  cases h with
  | tsp => exact TspFunction.after_eq_observe ..
  | optee => rfl
  | invoke => rfl
  | leave => rfl

/-- Only its own calls change the test payload, and arithmetic does not. -/
theorem Completes.tsp_eq_self (h : core.Completes f id call event g core')
    (hcall : ∀ fn, call = .tsp fn → ∃ op, fn = .arithmetic op) :
    core'.services.tsp = core.services.tsp := by
  cases h with
  | tsp =>
    obtain ⟨op, rfl⟩ := hcall _ rfl
    rfl
  | optee => rfl
  | invoke => rfl
  | leave => rfl

theorem Completes.coherent (h : core.Completes f id call event g core')
    (hc : core.services.tsp.Coherent) : core'.services.tsp.Coherent := by
  cases h with
  | tsp ready => exact hc.after ready
  | optee => exact hc
  | invoke => exact hc
  | leave => exact hc

/-- A trap changes the test payload as its event says, if it has one. -/
theorem Handles.tsp_eq (h : core.Handles v f controller step) :
    step.core.services.tsp =
      step.toResponse.event?.toList.foldl Tsp.observe core.services.tsp := by
  cases h with
  | ignored => rfl
  | fatal => rfl
  | forwarded => rfl
  | refused => rfl
  | completed _ _ _ served => exact served.tsp_eq

theorem Handles.tsp_eq_self (h : core.Handles v f controller step)
    (hother : (∀ event, step.result ≠ .ok (.completed event)) ∨
      ∀ id fn, Call.route v.origin f.callId = .ok (id, .tsp fn) → ∃ op, fn = .arithmetic op) :
    step.core.services.tsp = core.services.tsp := by
  cases h with
  | ignored => rfl
  | fatal => rfl
  | forwarded => rfl
  | refused => rfl
  | completed _ _ routed served =>
    rcases hother with hnone | hcall
    · exact absurd rfl (hnone _)
    · refine served.tsp_eq_self ?_
      rintro fn rfl
      exact hcall _ fn routed

theorem Handles.coherent (h : core.Handles v f controller step)
    (hc : core.services.tsp.Coherent) : step.core.services.tsp.Coherent := by
  cases h with
  | ignored => exact hc
  | fatal => exact hc
  | forwarded => exact hc
  | refused => exact hc
  | completed _ _ _ served => exact served.coherent hc

/-- A call to the test payload completes if the payload is ready for it and
can compute its results, and is refused with the payload's own reason if not. -/
theorem handle_tsp {fn : TspFunction} (idle : core.phase = .idle)
    (found : v.disposition f.esr = .call)
    (routed : Call.route v.origin f.callId = .ok (id, .tsp fn)) (controller : γ) :
    (core.services.tsp.obstacle fn = none ∧
        (∃ results, fn.results id.width f.operands = .ok results) ∧
        (core.handle v f controller).result = .ok (.completed fn.event)) ∨
      ∃ why, (core.services.tsp.handle fn (core.request f id)).1 = .error why ∧
        (core.handle v f controller).result = .ok (.refused why) := by
  have hstep := handles_of_idle idle v f controller
  generalize core.handle v f controller = step at hstep ⊢
  cases hstep with
  | ignored halted => exact nomatch idle.symm.trans halted
  | fatal _ found' => exact nomatch found.symm.trans found'
  | forwarded _ found' => exact nomatch found.symm.trans found'
  | refused _ _ cause =>
    cases cause with
    | route astray => exact nomatch routed.symm.trans astray
    | serve routed' unserved =>
      cases routed.symm.trans routed'
      exact .inr ⟨_, perform_tsp_error unserved, rfl⟩
  | completed _ _ routed' served =>
    cases routed.symm.trans routed'
    cases served with
    | tsp ready computed => exact .inl ⟨ready, ⟨_, computed⟩, rfl⟩

/-- So it is with the functions of the lifecycle, for which the history
decides: one that is due completes, and any other is denied. -/
theorem handle_tsp_of_history {fn : TspFunction} {seen : List Event}
    (idle : core.phase = .idle) (found : v.disposition f.esr = .call)
    (routed : Call.route v.origin f.callId = .ok (id, .tsp fn))
    (hfn : ∀ op, fn ≠ .arithmetic op)
    (hp : core.services.tsp.power = Event.powerAfter seen)
    (hc : core.services.tsp.preempted = Event.preemptedAfter seen) (controller : γ) :
    (fn.Due seen → (core.handle v f controller).result = .ok (.completed fn.event)) ∧
      (¬fn.Due seen →
        (core.handle v f controller).result = .ok (.refused (.denied fn.denial))) := by
  have hresults := TspFunction.results_eq_ok hfn id.width f.operands
  refine ⟨?_, ?_⟩
  · intro hdue
    have hready := Tsp.obstacle_eq_none_of_due hp hc hdue
    rcases handle_tsp idle found routed controller with ⟨-, -, hresult⟩ | ⟨why, herror, -⟩
    · exact hresult
    · rcases (Tsp.handle_error herror).2 with ⟨_, hobstacle, -⟩ | ⟨-, hunfit⟩
      · exact nomatch hready.symm.trans hobstacle
      · exact nomatch hresults.symm.trans hunfit
  · intro hdue
    have hobstacle := Tsp.obstacle_eq_some_of_not_due hp hc hdue
    rcases handle_tsp idle found routed controller with ⟨hready, -⟩ | ⟨why, herror, hresult⟩
    · exact nomatch hready.symm.trans hobstacle
    · rcases (Tsp.handle_error herror).2 with ⟨denial, hdenial, rfl⟩ | ⟨hready, -⟩
      · cases hobstacle.symm.trans hdenial
        exact hresult
      · exact nomatch hready.symm.trans hobstacle

/-! ### Whole runs -/

/-- The events of a run, in order. -/
def completions (core : Core) (controller : γ) (traps : List (TrapVector × Frame)) :
    List Event :=
  (core.responses controller traps).filterMap Response.event?

theorem completions_cons (core : Core) (controller : γ) (v : TrapVector) (f : Frame)
    (traps : List (TrapVector × Frame)) :
    core.completions controller ((v, f) :: traps) =
      (core.handle v f controller).toResponse.event?.toList ++
        (core.handle v f controller).core.completions (core.handle v f controller).controller
          traps := by
  rw [completions, responses_cons]
  cases hevent : (core.handle v f controller).toResponse.event? with
  | none => exact List.filterMap_cons_none hevent
  | some event => exact List.filterMap_cons_some hevent

variable {level : Level}

/-- The test payload is the fold of the events of its core. -/
theorem tsp_coreAfter (hs : core.Sound level) (controller : γ)
    (traps : List (TrapVector × Frame)) :
    (core.coreAfter controller traps).services.tsp =
      (core.completions controller traps).foldl Tsp.observe core.services.tsp := by
  induction traps generalizing core controller with
  | nil => rfl
  | cons t rest ih =>
    obtain ⟨v, f⟩ := t
    rw [coreAfter_cons, completions_cons, List.foldl_append, ih (hs.handle v f controller),
      (handles_handle hs.settled v f controller).tsp_eq]

theorem coherent_coreAfter (hs : core.Sound level) (hc : core.services.tsp.Coherent)
    (controller : γ) (traps : List (TrapVector × Frame)) :
    (core.coreAfter controller traps).services.tsp.Coherent := by
  have hstep (core : Core) (v : TrapVector) (f : Frame) (controller : γ)
      (h : core.Sound level ∧ core.services.tsp.Coherent) :
      (core.handle v f controller).core.Sound level ∧
        (core.handle v f controller).core.services.tsp.Coherent :=
    ⟨h.1.handle v f controller, (handles_handle h.1.settled v f controller).coherent h.2⟩
  exact (run_invariant hstep controller ⟨hs, hc⟩ traps).2

theorem tsp_hosting (level : Level) (applets : List Applet) :
    (hosting level applets).services.tsp = {} := by
  obtain ⟨a, h⟩ := hosting_eq level applets
  rw [h]

/-- The lifecycle is the fold of the visible completions.  In any run of a
monitor, after any number of traps: the payload's power state and its
preempted call are what the events so far tell; a lifecycle function whose
call is routed to the payload completes if it is due after these events, and
is denied if it is not; a core that is off has no call preempted; and a trap
that does not complete, or is not for the payload, or asks for arithmetic
only, leaves the payload as it is. -/
theorem lifecycle_follows_completions (level : Level) (applets : List Applet) (controller : γ)
    (traps : List (TrapVector × Frame)) :
    let core := hosting level applets
    let results := (core.responses controller traps).map (·.result)
    let coreAt := fun n => core.coreAfter controller (traps.take n)
    let seen := fun n => core.completions controller (traps.take n)
    (∀ n, (coreAt n).services.tsp =
      { power := Event.powerAfter (seen n), preempted := Event.preemptedAfter (seen n) }) ∧
    (∀ n v f id fn, traps[n]? = some (v, f) → (coreAt n).phase ≠ .halted →
      v.disposition f.esr = .call → Call.route v.origin f.callId = .ok (id, .tsp fn) →
      (∀ op, fn ≠ .arithmetic op) →
        (fn.Due (seen n) → results[n]? = some (.ok (.completed fn.event))) ∧
        (¬fn.Due (seen n) → results[n]? = some (.ok (.refused (.denied fn.denial))))) ∧
    (∀ n, Event.powerAfter (seen n) = .off → Event.preemptedAfter (seen n) = false) ∧
    ∀ n v f, traps[n]? = some (v, f) →
      ((∀ event, results[n]? ≠ some (.ok (.completed event))) ∨
        ∀ id fn, Call.route v.origin f.callId = .ok (id, .tsp fn) → ∃ op, fn = .arithmetic op) →
      (coreAt (n + 1)).services.tsp = (coreAt n).services.tsp := by
  intro core results coreAt seen
  have hsound : core.Sound level := sound_hosting level applets
  have hsoundAt (n : Nat) : (coreAt n).Sound level := hsound.coreAfter controller _
  have htsp (n : Nat) : (coreAt n).services.tsp =
      { power := Event.powerAfter (seen n), preempted := Event.preemptedAfter (seen n) } := by
    show (core.coreAfter controller (traps.take n)).services.tsp = _
    rw [tsp_coreAfter hsound, tsp_hosting, Tsp.foldl_observe]
    rfl
  have hresult {n : Nat} {v : TrapVector} {f : Frame} (ht : traps[n]? = some (v, f)) :
      results[n]? = some ((coreAt n).handle v f
        (core.controllerAfter controller (traps.take n))).result := by
    rw [List.getElem?_map, getElem?_responses _ _ ht]
    rfl
  refine ⟨htsp, ?_, ?_, ?_⟩
  · intro n v f id fn ht hphase found routed hfn
    have hidle : (coreAt n).phase = .idle := (hsoundAt n).settled.resolve_right hphase
    rw [hresult ht, Option.some.injEq, Option.some.injEq]
    exact handle_tsp_of_history hidle found routed hfn (congrArg Tsp.power (htsp n))
      (congrArg Tsp.preempted (htsp n)) _
  · intro n
    have hcoherent : (coreAt n).services.tsp.Coherent := by
      refine coherent_coreAfter hsound ?_ controller _
      rw [tsp_hosting]
      exact fun _ => rfl
    rw [htsp n] at hcoherent
    exact hcoherent
  · intro n v f ht hother
    rw [hresult ht] at hother
    have hstep := handles_handle (hsoundAt n).settled v f
      (core.controllerAfter controller (traps.take n))
    show (core.coreAfter controller (traps.take (n + 1))).services.tsp = _
    rw [coreAfter_take_succ _ _ ht]
    refine hstep.tsp_eq_self (hother.imp_left ?_)
    exact fun hnone event hcompleted => hnone event (congrArg some hcompleted)

/-- A history in which the order counts: after a preempted call the core is
turned off, so that there is nothing left to abort and nothing to resume. -/
theorem lifecycle_follows_completions_off :
    let core := hosting .el1 []
    let traps : List (TrapVector × Frame) :=
      [(⟨.lowerAArch64, .synchronous⟩, Frame.calling 0 0xf2000006 {}),
        (⟨.lowerAArch64, .synchronous⟩, Frame.calling 0 0xf2000002 {}),
        (⟨.lowerAArch64, .irq⟩, Frame.calling 0 0 {}),
        (⟨.lowerAArch64, .synchronous⟩, Frame.calling 0 0xf2000004 {}),
        (⟨.lowerAArch64, .synchronous⟩, Frame.calling 0 0xf2000001 {})]
    let results := (core.responses (⟨[]⟩ : InterruptQueue) traps).map (·.result)
    core.completions (⟨[]⟩ : InterruptQueue) (traps.take 3) = [.preempted, .offDone] ∧
      results[3]? = some (.ok (.refused (.denied .noPreemptedCall))) ∧
      results[4]? = some (.ok (.completed .onDone)) := by
  intro core traps results
  have hseen : core.completions (⟨[]⟩ : InterruptQueue) (traps.take 3) =
      [.preempted, .offDone] := by decide +zetaReduce
  have hseen' : core.completions (⟨[]⟩ : InterruptQueue) (traps.take 4) =
      [.preempted, .offDone] := by decide +zetaReduce
  obtain ⟨-, hserved, -⟩ := lifecycle_follows_completions .el1 [] (⟨[]⟩ : InterruptQueue) traps
  refine ⟨hseen, ?_, ?_⟩
  · refine (hserved 3 _ _ _ .abort rfl (by decide +zetaReduce) (by decide +zetaReduce) rfl
      nofun).2 ?_
    show ¬Event.preemptedAfter (core.completions (⟨[]⟩ : InterruptQueue) (traps.take 3)) = true
    rw [hseen]
    decide
  · refine (hserved 4 _ _ _ .cpuOn rfl (by decide +zetaReduce) (by decide +zetaReduce) rfl
      nofun).1 ?_
    show Event.powerAfter (core.completions (⟨[]⟩ : InterruptQueue) (traps.take 4)) = .off
    rw [hseen']
    decide

end Core

end SecureMonitor
