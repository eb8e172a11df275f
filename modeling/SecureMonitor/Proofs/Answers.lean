/-
SecureMonitor/Proofs/Answers.lean

What x0 says when a call comes back.  It holds one of these words:

    0xf2000000 … 0xf2000009    an event of the test payload
    0xbe000000, 0xbd000000     an event of the message interface, of an applet
    -1, -3, -4, -5             a refusal, as a sign-extended number

An event is told apart from a refusal by the lower half alone, one event from
another by its code, and one kind of refusal from another by its number
(`SaysCompleted`, `SaysRefused`).  So x0 can mean one thing only; and since an
event's word is itself an identifier of the service that served the call, it
also tells whose answer it is.

It makes no difference into which frame x0 is written — that of the call, the
first one of an applet, or that of a caller who was parked.
-/
import SecureMonitor.Interrupt.Queue
import SecureMonitor.Proofs.Atomicity
import SecureMonitor.Proofs.Run

namespace SecureMonitor

/-! ### Kinds of refusals -/

/-- The kinds of refusals that a caller can tell apart. -/
inductive Refusal.Kind
  | unrecognizedEntity
  | malformed
  | busy
  | denied
deriving DecidableEq, Repr

namespace Refusal

def kind : Refusal → Kind
  | unrecognizedEntity _ => .unrecognizedEntity
  | malformed _ => .malformed
  | busy => .busy
  | denied _ => .denied

/-- The number that stands for a kind. -/
def Kind.number : Kind → Int
  | unrecognizedEntity => -1
  | malformed => -3
  | busy => -4
  | denied => -5

theorem Kind.number_injective {k l : Kind} (h : k.number = l.number) : k = l := by
  revert h
  cases k <;> cases l <;> decide

theorem toInt_value (why : Refusal) : why.value.toInt64.toInt = why.kind.number := by
  rw [value, ReturnCode.toInt_value]
  cases why <;> rfl

/-- The lower half of a return code is no event's code. -/
theorem ofCode?_value (why : Refusal) : Event.ofCode? why.value.toUInt32 = none := by
  rw [value]
  cases why.returnCode <;> rfl

end Refusal

/-! ### What a word says -/

/-- A word in x0 says that a call completed with event `e`. -/
structure SaysCompleted (x0 : UInt64) (e : Event) : Prop where
  value : x0.toNat = e.code.toNat
  read : Event.ofCode? x0.toUInt32 = some e
  identifier : ∃ id, CallId.decode x0 = .ok id ∧ id.callType = .fast ∧ id.owner = e.owner

/-- A word in x0 says that a call was refused for `why`, or for another reason
of that kind. -/
structure SaysRefused (x0 : UInt64) (why : Refusal) : Prop where
  value : x0.toInt64.toInt = why.returnCode.number.toInt
  noEvent : Event.ofCode? x0.toUInt32 = none
  kind : ∀ k : Refusal.Kind, x0.toInt64.toInt = k.number ↔ why.kind = k

theorem saysCompleted_value (e : Event) : SaysCompleted e.value e where
  value := e.code.toNat_toUInt64
  read := by
    rw [Event.value, UInt32.toUInt32_toUInt64, Event.ofCode?_code]
  identifier := by
    cases e <;> exact ⟨_, rfl, rfl, rfl⟩

theorem saysRefused_value (why : Refusal) : SaysRefused why.value why where
  value := ReturnCode.toInt_value why.returnCode
  noEvent := why.ofCode?_value
  kind k := by
    rw [why.toInt_value]
    exact ⟨Refusal.Kind.number_injective, congrArg Refusal.Kind.number⟩

section

variable {x0 : UInt64} {e e' : Event} {why why' : Refusal}

theorem SaysCompleted.event_eq (h : SaysCompleted x0 e) (h' : SaysCompleted x0 e') : e = e' :=
  Event.code_injective (UInt32.toNat_inj.mp (h.value.symm.trans h'.value))

theorem SaysCompleted.not_saysRefused (h : SaysCompleted x0 e) : ¬ SaysRefused x0 why :=
  fun hr => nomatch h.read.symm.trans hr.noEvent

theorem SaysRefused.kind_eq (h : SaysRefused x0 why) (h' : SaysRefused x0 why') :
    why.kind = why'.kind :=
  (h.kind why'.kind).mp ((h'.kind why'.kind).mpr rfl)

end

/-! ### Calls and their answers -/

variable {γ : Type} [InterruptController γ]

namespace Core

section

variable {core core' : Core} {f g : Frame} {id : CallId} {call : Call} {event : Event}

/-- A call completes with an event of its own service. -/
theorem Completes.owner_eq (h : core.Completes f id call event g core') :
    event.owner = call.owner := by
  cases h with
  | @tsp fn => cases fn <;> rfl
  | optee => rfl
  | invoke => rfl
  | leave => rfl

/-- In whatever frame the core goes on, the event is in x0. -/
theorem Completes.arg_zero (h : core.Completes f id call event g core') :
    g.arg 0 = event.value := by
  cases h with
  | tsp => exact Frame.arg_writeReturn_zero ..
  | optee => exact Frame.arg_writeReturn_zero ..
  | invoke => exact Frame.arg_writeReturn_zero ..
  | leave => exact Frame.arg_writeReturn_zero ..

end

variable {core : Core} {v : TrapVector} {f : Frame}

/-- The outcome of a call is what x0 says, and an event is one of the service
that the call was addressed to. -/
theorem says_of_call (awake : core.phase ≠ .halted) (call : v.IsCall f) (controller : γ) :
    (∃ e, (core.handle v f controller).result = .ok (.completed e) ∧
        SaysCompleted ((core.handle v f controller).frame.arg 0) e ∧
        ∃ id, CallId.decode f.callId = .ok id ∧ id.owner = e.owner) ∨
      ∃ why, (core.handle v f controller).result = .ok (.refused why) ∧
        SaysRefused ((core.handle v f controller).frame.arg 0) why := by
  rcases answers_call awake (TrapVector.isCall_iff.mp call) controller with
    ⟨why, hresult, hframe⟩ | ⟨id, fn, e, core', hroute, hresult, hserved⟩
  · right
    refine ⟨why, hresult, ?_⟩
    rw [hframe, Frame.arg_writeReturn_zero]
    exact saysRefused_value why
  · left
    have hdecode := (Call.route_eq_ok hroute).1
    have howner := (Call.ofNumber?_of_route hroute).1
    refine ⟨e, hresult, ?_, id, hdecode, howner.trans hserved.owner_eq.symm⟩
    rw [hserved.arg_zero]
    exact saysCompleted_value e

/-- Answers are unambiguous.  Let a core that has not halted, be it idle or at
another trap, be handed a monitor call from below.  If the call completes, it
was addressed to the service whose event it completes with, and the word that
the core goes on with in x0 is the event's code, is read back as that event
and as no other, and is an identifier of the same service.  If it is refused,
x0 is the refusal's return code with its sign extended, is no event's code,
and tells which kind of refusal it is.  It comes to nothing else.  So two calls
after which x0 is the same, on whatever cores, had the same event or refusals
of one kind. -/
theorem answers_are_unambiguous (awake : core.phase ≠ .halted) (call : v.IsCall f)
    (controller : γ) :
    let step := core.handle v f controller
    let x0 := step.frame.arg 0
    ((∃ e, step.result = .ok (.completed e) ∧ SaysCompleted x0 e ∧
        ∃ id, CallId.decode f.callId = .ok id ∧ id.owner = e.owner) ∨
      ∃ why, step.result = .ok (.refused why) ∧ SaysRefused x0 why) ∧
    ∀ (core' : Core) (v' : TrapVector) (f' : Frame) (controller' : γ),
      core'.phase ≠ .halted → v'.IsCall f' →
        (core'.handle v' f' controller').frame.arg 0 = x0 →
          (∃ e, step.result = .ok (.completed e) ∧
            (core'.handle v' f' controller').result = .ok (.completed e)) ∨
          ∃ why why', step.result = .ok (.refused why) ∧
            (core'.handle v' f' controller').result = .ok (.refused why') ∧
            why.kind = why'.kind := by
  intro step x0
  have hword := says_of_call awake call controller
  refine ⟨hword, ?_⟩
  intro core' v' f' controller' awake' call' hsame
  have hword' := says_of_call awake' call' controller'
  rw [hsame] at hword'
  rcases hword with ⟨e, hresult, hcompleted, -⟩ | ⟨why, hresult, hrefused⟩
  · rcases hword' with ⟨e', hresult', hcompleted', -⟩ | ⟨why', -, hrefused'⟩
    · obtain rfl := hcompleted.event_eq hcompleted'
      exact .inl ⟨e, hresult, hresult'⟩
    · exact absurd hrefused' hcompleted.not_saysRefused
  · rcases hword' with ⟨e', -, hcompleted', -⟩ | ⟨why', hresult', hrefused'⟩
    · exact absurd hrefused hcompleted'.not_saysRefused
    · exact .inr ⟨why, why', hresult, hresult', hrefused.kind_eq hrefused'⟩

/-- An applet is left, and x0 is written into the frame of the caller that was
parked.  It says what it says to a second caller, who enters an applet on a
core of its own. -/
theorem answers_are_unambiguous_restored :
    let sync : TrapVector := ⟨.lowerAArch64, .synchronous⟩
    let enter := Frame.calling 0x401 0xbd000001 {}
    let leave := Frame.calling 0x400 0xbd000000 { x1 := 42 }
    let core := hosting .el3 [⟨0x0e200000, 0x0e300000⟩]
    let inside := (core.handle sync enter (⟨[]⟩ : InterruptQueue)).core
    let back := inside.handle sync leave (⟨[]⟩ : InterruptQueue)
    back.result = .ok (.completed .customEntryDone) ∧
      SaysCompleted (back.frame.arg 0) .customEntryDone ∧
      (core.handle sync enter (⟨[]⟩ : InterruptQueue)).result =
        .ok (.completed .customEntryDone) := by
  intro sync enter leave core inside back
  have hcall {f : Frame} (h : f.esr = 0x5e000000) : sync.IsCall f :=
    ⟨rfl, .inl rfl, .inr (by rw [h]; decide)⟩
  have hsame : (core.handle sync enter (⟨[]⟩ : InterruptQueue)).frame.arg 0 =
      back.frame.arg 0 := by decide +zetaReduce
  have hback : back.result = .ok (.completed .customEntryDone) :=
    Response.toOption_result_eq_some_iff.mp (by decide +zetaReduce)
  have awake : inside.phase ≠ .halted := by decide +zetaReduce
  have call : sync.IsCall leave := hcall rfl
  obtain ⟨hword, hothers⟩ := answers_are_unambiguous awake call (⟨[]⟩ : InterruptQueue)
  rcases hword with ⟨e, hresult, hcompleted, -⟩ | ⟨why, hresult, -⟩
  · cases hback.symm.trans hresult
    refine ⟨hback, hcompleted, ?_⟩
    rcases hothers core sync enter ⟨[]⟩ (by decide +zetaReduce) (hcall rfl) hsame with
      ⟨e, hagain, hother⟩ | ⟨why, why', hagain, -⟩
    · cases hback.symm.trans hagain
      exact hother
    · exact nomatch hback.symm.trans hagain
  · exact nomatch hback.symm.trans hresult

end Core

end SecureMonitor
