/-
SecureMonitor/Proofs/Pairing.lean

Calls to applets and ways back from them, over whole runs.  Of a run one
sees the completed applet calls (`appletCalls`), each with its function, the
frame that it trapped with and the frame that went on.  The parked frame
chains them together:

    parked caller   function   parked afterwards
    none            invoke     the frame of the call
    some caller     leave      none, and the caller goes on

A list of calls in which each takes the parked frame from the one before it
is `Paired`.  Every run is (`paired_appletCalls`): one trap is one link of
the chain, or none, and in between nothing touches the parked frame.  From
there on the properties are those of paired lists, by induction on the chain
and with no core in sight.
-/
import SecureMonitor.Interrupt.Queue
import SecureMonitor.Proofs.Run

namespace SecureMonitor

/-! ### The applet calls of a run -/

/-- A completed call of an applet function. -/
structure AppletCall where
  function : AppletFunction
  trapped : Frame
  returned : Frame

namespace AppletCall

/-- Who is parked after a call. -/
def parks (call : AppletCall) : Option Frame :=
  if call.function = .leave then none else some call.trapped

/-- The calls that entered an applet. -/
def entries (calls : List AppletCall) : List AppletCall :=
  calls.filter fun call => call.function ≠ .leave

/-- The calls that left one. -/
def exits (calls : List AppletCall) : List AppletCall :=
  calls.filter fun call => call.function = .leave

section

variable (slot : Fin appletSlots) (f g : Frame) (calls : List AppletCall)

@[simp] theorem entries_invoke :
    entries (⟨.invoke slot, f, g⟩ :: calls) = ⟨.invoke slot, f, g⟩ :: entries calls := rfl

@[simp] theorem entries_leave : entries (⟨.leave, f, g⟩ :: calls) = entries calls := rfl

@[simp] theorem exits_invoke : exits (⟨.invoke slot, f, g⟩ :: calls) = exits calls := rfl

@[simp] theorem exits_leave :
    exits (⟨.leave, f, g⟩ :: calls) = ⟨.leave, f, g⟩ :: exits calls := rfl

end

end AppletCall

variable {γ : Type} [InterruptController γ]

/-- The applet call that a trap made, if it made one and it completed. -/
def Response.appletCall? (r : Response γ) (v : TrapVector) (f : Frame) : Option AppletCall :=
  match r.result, Call.route v.origin f.callId with
  | .ok (.completed _), .ok (_, .custom function) => some ⟨function, f, r.frame⟩
  | _, _ => none

namespace Core

/-- The completed applet calls of a run, in order. -/
def appletCalls (core : Core) (controller : γ) (traps : List (TrapVector × Frame)) :
    List AppletCall :=
  (traps.zip (core.responses controller traps)).filterMap
    fun ((v, f), response) => response.appletCall? v f

theorem appletCalls_cons (core : Core) (controller : γ) (v : TrapVector) (f : Frame)
    (traps : List (TrapVector × Frame)) :
    core.appletCalls controller ((v, f) :: traps) =
      ((core.handle v f controller).toResponse.appletCall? v f).toList ++
        (core.handle v f controller).core.appletCalls (core.handle v f controller).controller
          traps := by
  rw [appletCalls, responses_cons, List.zip_cons_cons]
  cases hcall : (core.handle v f controller).toResponse.appletCall? v f with
  | none => exact List.filterMap_cons_none hcall
  | some call => exact List.filterMap_cons_some hcall

end Core

/-! ### Paired lists of calls -/

namespace AppletCall

/-- Calls that start with `parked`, hand the parked frame on from one to the
next, and end with `last`. -/
inductive Paired : (parked : Option Frame) → List AppletCall → (last : Option Frame) → Prop
  | nil (parked : Option Frame) : Paired parked [] parked
  | invoke {slot : Fin appletSlots} {f g : Frame} {calls : List AppletCall}
      {last : Option Frame} (rest : Paired (some f) calls last) :
      Paired none (⟨.invoke slot, f, g⟩ :: calls) last
  | leave {caller f g : Frame} {calls : List AppletCall} {last : Option Frame}
      (answered : caller.Answered 0xbd000000 { x1 := f.arg 1 } g)
      (rest : Paired none calls last) :
      Paired (some caller) (⟨.leave, f, g⟩ :: calls) last

variable {parked last : Option Frame} {calls : List AppletCall} {call exit : AppletCall}
  {i k : Nat}

/-- Every other call leaves an applet: the first one if a caller is parked
at the start, and else the second. -/
theorem Paired.leave_iff (h : Paired parked calls last) (hcall : calls[i]? = some call) :
    call.function = .leave ↔ (i + parked.isSome.toNat) % 2 = 1 := by
  induction h generalizing i with
  | nil => cases hcall
  | invoke rest ih =>
    cases i with
    | zero =>
      cases hcall
      simp
    | succ i =>
      rw [ih hcall]
      simp only [Option.isSome_some, Option.isSome_none, Bool.toNat_true, Bool.toNat_false]
  | leave answered rest ih =>
    cases i with
    | zero =>
      cases hcall
      simp
    | succ i =>
      rw [ih hcall]
      simp only [Option.isSome_some, Option.isSome_none, Bool.toNat_true, Bool.toNat_false]
      omega

/-- The default is the first element's value, once there is a first element. -/
theorem getLast?_cons_map_getD {α β : Type} (g : α → β) (a : α) (l : List α) (b : β) :
    ((a :: l).getLast?.map g).getD b = (l.getLast?.map g).getD (g a) := by
  rw [List.getLast?_cons]
  cases l.getLast? <;> rfl

/-- Where there are calls, the last one alone says who is parked at the end. -/
theorem Paired.last_eq (h : Paired parked calls last) :
    last = (calls.getLast?.map parks).getD parked := by
  induction h with
  | nil => rfl
  | invoke rest ih =>
    rw [getLast?_cons_map_getD]
    exact ih
  | leave answered rest ih =>
    rw [getLast?_cons_map_getD]
    exact ih

/-- The `k`-th exit goes back to the `k`-th caller, where the one who was
parked at the start counts first. -/
theorem Paired.answered (h : Paired parked calls last) (hexit : (exits calls)[k]? = some exit) :
    ∃ caller, (parked.toList ++ (entries calls).map AppletCall.trapped)[k]? = some caller ∧
      caller.Answered 0xbd000000 { x1 := exit.trapped.arg 1 } exit.returned := by
  induction h generalizing k with
  | nil => cases hexit
  | invoke rest ih =>
    -- the caller is parked where its call was
    rw [exits_invoke] at hexit
    rw [entries_invoke]
    exact ih hexit
  | leave answered rest ih =>
    rw [exits_leave] at hexit
    rw [entries_leave]
    cases k with
    | zero =>
      cases hexit
      exact ⟨_, rfl, answered⟩
    | succ k => exact ih hexit

end AppletCall

/-! ### Runs pair their calls -/

namespace Core

open AppletCall

variable {core : Core} {level : Level} {last : Option Frame} {calls : List AppletCall}

/-- One trap is one link of the chain, or none. -/
theorem Handles.paired {v : TrapVector} {f : Frame} {controller : γ} {step : Step γ}
    (h : core.Handles v f controller step) (rest : Paired step.core.parked calls last) :
    Paired core.parked ((step.toResponse.appletCall? v f).toList ++ calls) last := by
  cases h with
  | ignored => exact rest
  | fatal => exact rest
  | forwarded => exact rest
  | refused => exact rest
  | completed _ _ routed served =>
    rw [Response.appletCall?, routed]
    cases served with
    | tsp => exact rest
    | optee => exact rest
    | invoke _ _ free =>
      rw [free]
      exact .invoke rest
    | leave _ _ parked =>
      rw [parked]
      exact .leave (Frame.answered_writeReturn ..) rest

theorem Sound.paired_appletCalls (hs : core.Sound level) (controller : γ)
    (traps : List (TrapVector × Frame)) :
    Paired core.parked (core.appletCalls controller traps)
      (core.coreAfter controller traps).parked := by
  induction traps generalizing core controller with
  | nil => exact .nil core.parked
  | cons t rest ih =>
    obtain ⟨v, f⟩ := t
    rw [appletCalls_cons, coreAfter_cons]
    exact (handles_handle hs.settled v f controller).paired (ih (hs.handle v f controller) _)

/-- Calls to applets and ways back pair up.  In any run of a monitor at EL3:
the calls alternate, and the first one enters an applet; after any number of
traps a caller is parked if and only if the last call so far entered an
applet, and then what is parked is the frame that this call trapped with;
and the `k`-th way back goes on with the frame of the `k`-th caller, which
finds the status in x0, x1 of the applet in its own x1, zero in x2 and x3,
and all else as it was.  What the run does between the two calls is of no
consequence. -/
theorem applet_calls_pair (applets : List Applet) (controller : γ)
    (traps : List (TrapVector × Frame)) :
    let core := hosting .el3 applets
    let calls := core.appletCalls controller traps
    (∀ (i : Nat) (call : AppletCall), calls[i]? = some call →
      (call.function = .leave ↔ i % 2 = 1)) ∧
    (∀ n caller, (core.coreAfter controller (traps.take n)).parked = some caller ↔
      ∃ call, (core.appletCalls controller (traps.take n)).getLast? = some call ∧
        call.function ≠ .leave ∧ call.trapped = caller) ∧
    ∀ (k : Nat) (exit : AppletCall), (exits calls)[k]? = some exit →
      ∃ entry : AppletCall, (entries calls)[k]? = some entry ∧
        entry.trapped.Answered 0xbd000000 { x1 := exit.trapped.arg 1 } exit.returned := by
  intro core calls
  have hnone : core.parked = none := by
    obtain ⟨a, h⟩ := hosting_eq .el3 applets
    exact congrArg Core.parked h
  have hpaired (traps : List (TrapVector × Frame)) :
      Paired none (core.appletCalls controller traps)
        (core.coreAfter controller traps).parked := by
    rw [← hnone]
    exact (sound_hosting .el3 applets).paired_appletCalls controller traps
  refine ⟨?_, ?_, ?_⟩
  · intro i call hcall
    exact (hpaired traps).leave_iff hcall
  · intro n caller
    rw [(hpaired (traps.take n)).last_eq]
    cases (core.appletCalls controller (traps.take n)).getLast? with
    | none => simp
    | some call => by_cases h : call.function = .leave <;> simp [parks, h]
  · intro k exit hexit
    obtain ⟨caller, hcaller, hanswered⟩ := (hpaired traps).answered hexit
    rw [Option.toList_none, List.nil_append, List.getElem?_map] at hcaller
    obtain ⟨entry, hentry, rfl⟩ := Option.map_eq_some_iff.mp hcaller
    exact ⟨entry, hentry, hanswered⟩

/-- A round trip: a caller enters applet 0, an interrupt comes in, and the
applet hands 42 back to its caller. -/
theorem applet_calls_pair_round_trip :
    let core := hosting .el3 [⟨0x0e200000, 0x0e300000⟩]
    let traps : List (TrapVector × Frame) :=
      [(⟨.lowerAArch64, .synchronous⟩, Frame.calling 0x401 0xbd000001 { x1 := 7 }),
        (⟨.lowerAArch64, .irq⟩, Frame.calling 0x400 0 {}),
        (⟨.lowerAArch64, .synchronous⟩, Frame.calling 0x400 0xbd000000 { x1 := 42 })]
    let calls := core.appletCalls (⟨[]⟩ : InterruptQueue) traps
    ∃ entry exit : AppletCall, (entries calls)[0]? = some entry ∧ (exits calls)[0]? = some exit ∧
      entry.trapped.Answered 0xbd000000 { x1 := 42 } exit.returned := by
  intro core traps calls
  have hx1 : ((exits calls)[0]?.map fun exit => exit.trapped.arg 1) = some 42 := by
    decide +zetaReduce
  obtain ⟨exit, hexit, hx1⟩ := Option.map_eq_some_iff.mp hx1
  obtain ⟨entry, hentry, hanswered⟩ := (applet_calls_pair _ _ traps).2.2 0 exit hexit
  rw [hx1] at hanswered
  exact ⟨entry, exit, hentry, hexit, hanswered⟩

end Core

end SecureMonitor
