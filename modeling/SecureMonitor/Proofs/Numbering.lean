/-
SecureMonitor/Proofs/Numbering.lean

The numbers of the applets.  A registration goes to every core and is answered
with the number that the last one gives.  This is the number on all of them,
because all of them hold the same applets in the same slots: of those that were
registered since the monitor was set up,

    applet    x₀   x₁   …   x₇   x₈   …
    slot      0    1    …   7    none
    number    1    2    …   8    none

Setting the monitor up empties the slots, a registration fills the same slot of
every core or no slot at all, and a trap fills none (`Numbered.apply`).

Function `n` runs the applet in slot `n - 1`, for a caller in the non-secure
world.  Function 0 has no slot: it is the way back from an applet, and such a
caller is in none.
-/
import SecureMonitor.Interrupt.Queue
import SecureMonitor.Proofs.PerCore
import SecureMonitor.Proofs.WorldSwitch

namespace SecureMonitor

variable {γ : Type}

/-! ### Registrations -/

namespace Operation

/-- The applets registered since the monitor was last set up, after one more
operation.  Where there is no monitor nothing is registered. -/
def record (seen : Option (List Applet)) : Operation γ → Option (List Applet)
  | .boot _ => some []
  | .register x => seen.map (· ++ [x])
  | .trap _ => seen

/-- The applets registered since the monitor was last set up, if it ever was,
whether or not there was a slot for them. -/
def registrations (operations : List (Operation γ)) : Option (List Applet) :=
  operations.foldl record none

end Operation

namespace Applets

variable {a : Applets} {x : Applet} {xs : List Applet}

/-- Of all applets ever registered the first ones have a slot. -/
theorem registered_register (h : a.registered = xs.take appletSlots) (x : Applet) :
    (a.register x).2.registered = (xs ++ [x]).take appletSlots := by
  have hlength : a.registered.length = min appletSlots xs.length := by
    rw [h, List.length_take]
  unfold register
  split
  · -- every one of them has a slot, and so has this one
    rename_i hfree
    have hall : xs.length < appletSlots := by omega
    have hfits : (xs ++ [x]).length ≤ appletSlots := by
      rw [List.length_append]
      exact hall
    rw [List.take_of_length_le hfits]
    exact congrArg (· ++ [x]) (h.trans (List.take_of_length_le (Nat.le_of_lt hall)))
  · -- the slots are taken by those before it
    rename_i hfull
    rw [List.take_append_of_le_length (by omega)]
    exact h

theorem register_of_full (h : appletSlots ≤ a.registered.length) (x : Applet) :
    a.register x = (none, a) :=
  dif_neg (Nat.not_lt.mpr h)

end Applets

/-! ### One core -/

/-- A call of function `n` of the applets that comes from the non-secure world
and is not too wide for its caller. -/
structure TrapVector.CallsApplet (v : TrapVector) (f : Frame) (n : Nat) : Prop where
  call : v.disposition f.esr = .call
  nonSecure : SecureConfig.has f.scr .ns = true
  identified : ∃ id, CallId.decode f.callId = .ok id ∧ id.owner = .custom ∧
    id.number.toNat = n ∧ ¬ (v.origin = .lowerAArch32 ∧ id.width = .smc64)

/-- Up to the last number, a call gets to the function that it asks for. -/
theorem TrapVector.CallsApplet.route {v : TrapVector} {f : Frame} {n : Nat} {fn : AppletFunction}
    (h : v.CallsApplet f n) (hfn : AppletFunction.ofNumber? n = some fn) :
    ∃ id, Call.route v.origin f.callId = .ok (id, .custom fn) := by
  obtain ⟨id, hdecode, howner, hnumber, hwidth⟩ := h.identified
  have hresolve : Call.resolve id = .ok (.custom fn) := by
    rw [Call.resolve_eq_ok_iff, howner, hnumber, Call.ofNumber?, hfn]
    rfl
  exact ⟨id, Call.route_eq_ok_iff.mpr ⟨hdecode, hwidth, hresolve⟩⟩

namespace Core

variable {core : Core} {v : TrapVector} {f : Frame} {n : Nat} {x : Applet} {xs : List Applet}

/-- An applet can be entered from the core. -/
structure CanEnter (core : Core) : Prop where
  level : core.level = .el3
  awake : core.phase ≠ .halted
  free : core.parked = none

/-- The core is one of a monitor between traps and holds those of `xs` that
have a slot. -/
structure Holds (xs : List Applet) (core : Core) : Prop where
  sound : ∃ level, core.Sound level
  registered : core.services.applets.registered = xs.take appletSlots

theorem holds_fresh (level : Level) : (fresh level).Holds [] :=
  ⟨⟨level, sound_fresh level⟩, rfl⟩

theorem Holds.register (h : core.Holds xs) (x : Applet) :
    (core.register x).2.Holds (xs ++ [x]) := by
  obtain ⟨level, hsound⟩ := h.sound
  exact ⟨⟨level, hsound.register x⟩, Applets.registered_register h.registered x⟩

theorem Holds.settled (h : core.Holds xs) : core.Settled := by
  obtain ⟨level, hsound⟩ := h.sound
  exact hsound.settled

theorem Holds.length_registered (h : core.Holds xs) :
    core.services.applets.registered.length = min appletSlots xs.length := by
  rw [h.registered, List.length_take]

/-- The slots are filled from the first one on, and those behind are empty. -/
theorem Holds.get? (h : core.Holds xs) (slot : Nat) :
    core.services.applets.get? slot =
      if slot < min xs.length appletSlots then xs[slot]? else none := by
  by_cases hslot : slot < appletSlots
  · rw [Applets.get?, h.registered, List.getElem?_take, if_pos hslot]
    split
    · rfl
    · exact List.getElem?_eq_none (by omega)
  · rw [core.services.applets.get?_of_ge (Nat.not_lt.mp hslot), if_neg (by omega)]

theorem Holds.fst_register (h : core.Holds xs) (x : Applet) :
    (core.register x).1 = if xs.length < appletSlots then some (xs.length + 1) else none := by
  have hlength := h.length_registered
  show (core.services.applets.register x).1 = _
  split
  · rename_i hfree
    exact Applets.register_eq_some_iff.mpr ⟨by omega, by omega⟩
  · rename_i hfull
    rw [Applets.register_of_full (by omega)]

theorem Holds.register_of_full (h : core.Holds xs) (hfull : appletSlots ≤ xs.length) (x : Applet) :
    (core.register x).2 = core := by
  have hlength := h.length_registered
  rw [Core.register, Applets.register_of_full (by omega)]

variable [InterruptController γ]

/-- A trap changes no slot. -/
theorem Handles.applets_eq {controller : γ} {step : Step γ}
    (h : core.Handles v f controller step) :
    step.core.services.applets = core.services.applets := by
  cases h with
  | completed _ _ _ served => exact served.applets_eq
  | _ => rfl

theorem Holds.handle (h : core.Holds xs) (v : TrapVector) (f : Frame) (controller : γ) :
    (core.handle v f controller).core.Holds xs := by
  obtain ⟨level, hsound⟩ := h.sound
  refine ⟨⟨level, hsound.handle v f controller⟩, ?_⟩
  rw [(handles_handle hsound.settled v f controller).applets_eq]
  exact h.registered

/-! ### A function of the applets -/

theorem CanEnter.caller (ready : core.CanEnter) (h : v.CallsApplet f n) (id : CallId) :
    (core.request f id).caller = some .nonSecure := by
  rw [caller_request core f id ready.level, SecureConfig.world_eq_nonSecure_iff.mpr h.nonSecure]

/-- Function 0 is denied to a caller that is in no applet. -/
theorem handle_function_zero (idle : core.phase = .idle) (ready : core.CanEnter)
    (h : v.CallsApplet f 0) (controller : γ) :
    (core.handle v f controller).result = .ok (.refused (.denied .callerWorld)) := by
  obtain ⟨id, hroute⟩ := h.route rfl
  have hserve : core.services.applets.handle .leave (core.request f id) =
      .error (.denied .callerWorld) := by
    simp only [Applets.handle, ready.caller h id]
  have hresult : (core.perform f id (.custom .leave)).result = .error (.denied .callerWorld) := by
    rw [perform_custom, hserve]
  rw [handle_of_unserved idle h.call hroute hresult]

/-- A function whose slot is empty is denied. -/
theorem handle_function_of_empty (idle : core.phase = .idle) (ready : core.CanEnter)
    (slot : Fin appletSlots) (h : v.CallsApplet f (slot + 1))
    (hslot : core.services.applets.get? slot = none) (controller : γ) :
    (core.handle v f controller).result = .ok (.refused (.denied .appletNotRegistered)) := by
  obtain ⟨id, hroute⟩ := h.route (dif_pos slot.isLt)
  have hserve : core.services.applets.handle (.invoke slot) (core.request f id) =
      .error (.denied .appletNotRegistered) := by
    simp [Applets.handle, ready.caller h id, hslot]
  have hresult : (core.perform f id (.custom (.invoke slot))).result =
      .error (.denied .appletNotRegistered) := by
    rw [perform_custom, hserve]
  rw [handle_of_unserved idle h.call hroute hresult]

/-- Any other function runs the applet in its slot. -/
theorem handle_function_of_registered (idle : core.phase = .idle) (ready : core.CanEnter)
    (slot : Fin appletSlots) (h : v.CallsApplet f (slot + 1))
    (hslot : core.services.applets.get? slot = some x) (controller : γ) :
    (core.handle v f controller).result = .ok (.completed .customEntryDone) ∧
      f.StartsApplet x (core.handle v f controller).frame := by
  obtain ⟨id, hroute⟩ := h.route (dif_pos slot.isLt)
  have hserve : core.services.applets.handle (.invoke slot) (core.request f id) =
      .ok ⟨.customEntryDone, f.operands, .enter .secure x.entry x.stack⟩ := by
    simp [Applets.handle, ready.caller h id, hslot]
    rfl
  have hresume : core.resume f (.enter .secure x.entry x.stack) =
      .ok (f.entering .secure x.entry x.stack, some f) := by
    simp [resume, ready.level, ready.free, Level.canSwitchWorlds]
  have hresult : (core.perform f id (.custom (.invoke slot))).result =
      .ok (.customEntryDone, (f.entering .secure x.entry x.stack).writeReturn
        Event.customEntryDone.value f.operands) := by
    rw [perform_custom, hserve]
    simp only [hresume]
  rw [handle_of_served idle h.call hroute hresult]
  exact ⟨rfl, f.startsApplet_entering x⟩

/-- A core that holds `xs` runs the `n`-th of them for function `n`, if it can
enter an applet at all. -/
theorem Holds.handle_function (hholds : core.Holds xs) (ready : core.CanEnter)
    (h : v.CallsApplet f n) (controller : γ) :
    (1 ≤ n → n ≤ min xs.length appletSlots → ∃ x, xs[n - 1]? = some x ∧
        (core.handle v f controller).result = .ok (.completed .customEntryDone) ∧
        f.StartsApplet x (core.handle v f controller).frame) ∧
      (min xs.length appletSlots < n → n ≤ appletSlots →
        (core.handle v f controller).result = .ok (.refused (.denied .appletNotRegistered))) ∧
      (n = 0 → (core.handle v f controller).result = .ok (.refused (.denied .callerWorld))) := by
  have idle : core.phase = .idle := hholds.settled.resolve_right ready.awake
  refine ⟨?_, ?_, ?_⟩
  · intro hpos hle
    obtain ⟨slot, rfl⟩ := Nat.exists_eq_add_of_le' hpos
    have hslot : slot < xs.length := by omega
    have hx : xs[slot]? = some xs[slot] := List.getElem?_eq_getElem hslot
    have hget := hholds.get? slot
    rw [if_pos (by omega), hx] at hget
    exact ⟨xs[slot], hx,
      handle_function_of_registered idle ready ⟨slot, by omega⟩ h hget controller⟩
  · intro hlt hle
    obtain ⟨slot, rfl⟩ := Nat.exists_eq_add_of_le' (Nat.one_le_of_lt hlt)
    have hget := hholds.get? slot
    rw [if_neg (by omega)] at hget
    exact handle_function_of_empty idle ready ⟨slot, by omega⟩ h hget controller
  · rintro rfl
    exact handle_function_zero idle ready h controller

end Core

/-! ### All cores -/

namespace Machine

variable {m : Machine} {core : Core} {seen : Option (List Applet)} {xs : List Applet}

/-- All cores hold the same applets in the same slots. -/
def Numbered (m : Machine) : Option (List Applet) → Prop
  | none => m = cold
  | some xs => ∀ i, i < coreCount → ∃ core, m.coreAt i = .ok core ∧ core.Holds xs

/-- The last core gives the number. -/
theorem fst_register (h : m.coreAt (coreCount - 1) = .ok core) (x : Applet) :
    (m.register x).1 = (core.register x).1 := by
  obtain ⟨_ | cores⟩ := m
  · cases h
  · cases h
    rfl

variable [InterruptController γ]

/-- No operation brings the cores apart. -/
theorem Numbered.apply (h : m.Numbered seen) (operation : Operation γ) :
    (m.apply operation).Numbered (operation.record seen) := by
  cases operation with
  | boot level =>
    intro i hi
    exact ⟨_, coreAt_boot level hi, Core.holds_fresh level⟩
  | register x =>
    cases seen with
    | none =>
      obtain rfl : m = cold := h
      rfl
    | some xs =>
      intro i hi
      obtain ⟨core, hcore, hholds⟩ := h i hi
      exact ⟨_, coreAt_register hcore x, hholds.register x⟩
  | trap a =>
    cases seen with
    | none =>
      obtain rfl : m = cold := h
      exact handle_cold a
    | some xs =>
      intro i hi
      obtain ⟨core, hcore, hholds⟩ := h i hi
      by_cases ha : a.core = i
      · subst ha
        exact ⟨_, coreAt_handle_self hcore, hholds.handle ..⟩
      · exact ⟨core, (coreAt_handle_of_ne ha).trans hcore, hholds⟩

theorem Numbered.applyAll (h : m.Numbered seen) (operations : List (Operation γ)) :
    (m.applyAll operations).Numbered (operations.foldl Operation.record seen) := by
  induction operations generalizing m seen with
  | nil => exact h
  | cons operation rest ih => exact ih (h.apply operation)

theorem numbered_applyAll_cold (operations : List (Operation γ)) :
    (cold.applyAll operations).Numbered (Operation.registrations operations) := by
  have hcold : cold.Numbered none := rfl
  exact hcold.applyAll operations

/-- The numbers of the applets are stable and the same on every core.  After
any sequence of operations: if the monitor was never set up, there are no
cores, and a registration is answered with nothing and does nothing.  If it
was, let `xs` be the applets registered since it last was.  The next
registration is answered with the number behind theirs, or with nothing when
they are eight or more, and then it changes no core.  Every core holds the
first eight of them in this order, and no trap on any core changes that.  And
where an applet can be entered, a call of function `n` from the non-secure
world enters the `n`-th of them; it is denied if there is no such applet, and
for its world if `n` is zero. -/
theorem applet_numbers_are_stable (operations : List (Operation γ)) :
    let m := cold.applyAll operations
    (Operation.registrations operations = none →
      (∀ i, i < coreCount → m.coreAt i = .error .uninitialized) ∧
      ∀ x, m.register x = (none, m)) ∧
    ∀ xs, Operation.registrations operations = some xs →
      (∀ x, (m.register x).1 = if xs.length < 8 then some (xs.length + 1) else none) ∧
      (∀ x, 8 ≤ xs.length → ∀ i, (m.register x).2.coreAt i = m.coreAt i) ∧
      ∀ i, i < coreCount → ∃ core, m.coreAt i = .ok core ∧
        (∀ slot, core.services.applets.get? slot =
          if slot < min xs.length 8 then xs[slot]? else none) ∧
        (∀ a : Arrival γ, ∃ core', (m.handle a).1.coreAt i = .ok core' ∧
          core'.services.applets = core.services.applets) ∧
        ∀ v f n (controller : γ), core.CanEnter → v.CallsApplet f n →
          let r := (m.handle ⟨i, v, f, controller⟩).2
          (1 ≤ n → n ≤ min xs.length 8 → ∃ x, xs[n - 1]? = some x ∧
            r.result = .ok (.completed .customEntryDone) ∧ f.StartsApplet x r.frame) ∧
          (min xs.length 8 < n → n ≤ 8 →
            r.result = .ok (.refused (.denied .appletNotRegistered))) ∧
          (n = 0 → r.result = .ok (.refused (.denied .callerWorld))) := by
  intro m
  have hnumbered : m.Numbered (Operation.registrations operations) :=
    numbered_applyAll_cold operations
  refine ⟨?_, ?_⟩
  · intro hnone
    rw [hnone] at hnumbered
    have hcold : m = cold := hnumbered
    rw [hcold]
    exact ⟨fun i hi => coreAt_cold hi, fun x => rfl⟩
  · intro xs hxs
    rw [hxs] at hnumbered
    refine ⟨?_, ?_, ?_⟩
    · intro x
      obtain ⟨core, hcore, hholds⟩ := hnumbered (coreCount - 1) (by decide)
      rw [fst_register hcore]
      exact hholds.fst_register x
    · intro x hfull i
      rcases Nat.lt_or_ge i coreCount with hi | hi
      · obtain ⟨core, hcore, hholds⟩ := hnumbered i hi
        rw [coreAt_register hcore, hholds.register_of_full hfull, hcore]
      · rw [coreAt_of_ge _ hi, coreAt_of_ge _ hi]
    · intro i hi
      obtain ⟨core, hcore, hholds⟩ := hnumbered i hi
      refine ⟨core, hcore, hholds.get?, ?_, ?_⟩
      · intro a
        by_cases ha : a.core = i
        · subst ha
          exact ⟨_, coreAt_handle_self hcore,
            (Core.handles_handle hholds.settled ..).applets_eq⟩
        · exact ⟨core, (coreAt_handle_of_ne ha).trans hcore, rfl⟩
      · intro v f n controller ready hcall
        rw [handle_of_coreAt_ok (a := ⟨i, v, f, controller⟩) hcore]
        exact hholds.handle_function ready hcall controller

/-- Two applets are registered with a monitor that is set up for the second
time; between them core 3 takes a trap into the first.  Core 5 has the same
numbers for them, and the number behind them is free. -/
theorem applet_numbers_are_stable_two :
    let first : Applet := ⟨0x0e200000, 0x0e300000⟩
    let second : Applet := ⟨0x0e210000, 0x0e310000⟩
    let sync : TrapVector := ⟨.lowerAArch64, .synchronous⟩
    let calling := fun id => Frame.calling 0x401 id {}
    let early : List (Operation InterruptQueue) := [.register first]
    let operations := early ++ [.boot .el1, .register second, .boot .el3, .register first,
      .trap ⟨3, sync, calling 0xbd000001, ⟨[]⟩⟩, .register second]
    let m := cold.applyAll operations
    let answer := fun id => (m.handle ⟨5, sync, calling id, (⟨[]⟩ : InterruptQueue)⟩).2
    (cold.applyAll early).coreAt 5 = .error .uninitialized ∧
      (m.register first).1 = some 3 ∧
      (calling 0xbd000002).StartsApplet second (answer 0xbd000002).frame ∧
      (answer 0xbd000003).result = .ok (.refused (.denied .appletNotRegistered)) := by
  intro first second sync calling early operations m answer
  have hearly := ((applet_numbers_are_stable early).1 rfl).1 5 (by decide)
  obtain ⟨hnumber, -, hcores⟩ := (applet_numbers_are_stable operations).2 [first, second] rfl
  obtain ⟨core, hcore, -, -, hcalls⟩ := hcores 5 (by decide)
  have htrap : (⟨3, sync, calling 0xbd000001, ⟨[]⟩⟩ : Arrival InterruptQueue).core ≠ 5 := by decide
  have hfive : m.coreAt 5 = .ok (((Core.fresh .el3).register first).2.register second).2 :=
    coreAt_register ((coreAt_handle_of_ne htrap).trans
      (coreAt_register (coreAt_boot .el3 (by decide)) first)) second
  obtain rfl := Except.ok.inj (hfive.symm.trans hcore)
  have ready : (((Core.fresh .el3).register first).2.register second).2.CanEnter :=
    ⟨rfl, nofun, rfl⟩
  have htwo : sync.CallsApplet (calling 0xbd000002) 2 :=
    ⟨by decide, by decide, ⟨.fast, .smc32, .custom, 2⟩, by rw [Frame.callId_calling]; rfl, rfl, rfl,
      nofun⟩
  have hthree : sync.CallsApplet (calling 0xbd000003) 3 :=
    ⟨by decide, by decide, ⟨.fast, .smc32, .custom, 3⟩, by rw [Frame.callId_calling]; rfl, rfl, rfl,
      nofun⟩
  obtain ⟨x, hx, -, hstarts⟩ := (hcalls sync _ 2 ⟨[]⟩ ready htwo).1 (by decide) (by decide)
  obtain rfl : second = x := Option.some.inj hx
  exact ⟨hearly, hnumber first, hstarts,
    (hcalls sync _ 3 ⟨[]⟩ ready hthree).2.1 (by decide) (by decide)⟩

/-- Not every call of a function without an applet is denied for want of one.
On a core that applets can be entered from, and with none registered, a call of
function 0 from the non-secure world is denied for its world; and a 64-bit call
of function 1 that comes from 32-bit code is malformed. -/
theorem function_zero_has_no_slot :
    let m := cold.applyAll [(.boot .el3 : Operation InterruptQueue)]
    let answer := fun origin id =>
      (m.handle ⟨0, ⟨origin, .synchronous⟩, Frame.calling 0x401 id {}, (⟨[]⟩ : InterruptQueue)⟩).2
    let zero := answer .lowerAArch64 0xbd000000
    let wide := answer .lowerAArch32 0xfd000001
    Operation.registrations [(.boot .el3 : Operation InterruptQueue)] = some [] ∧
      m.coreAt 0 = .ok (Core.fresh .el3) ∧ (Core.fresh .el3).CanEnter ∧
      SecureConfig.has 0x401 .ns = true ∧
      CallId.decode 0xbd000000 = .ok ⟨.fast, .smc32, .custom, 0⟩ ∧
      zero.result = .ok (.refused (.denied .callerWorld)) ∧
      zero.result ≠ .ok (.refused (.denied .appletNotRegistered)) ∧
      CallId.decode 0xfd000001 = .ok ⟨.fast, .smc64, .custom, 1⟩ ∧
      wide.result = .ok (.refused (.malformed .widthMismatch)) ∧
      wide.result ≠ .ok (.refused (.denied .appletNotRegistered)) := by
  intro m answer zero wide
  have hzero : zero.result = .ok (.refused (.denied .callerWorld)) := rfl
  have hwide : wide.result = .ok (.refused (.malformed .widthMismatch)) := rfl
  refine ⟨rfl, rfl, ⟨rfl, nofun, rfl⟩, by decide, rfl, hzero, ?_, rfl, hwide, ?_⟩
  · rw [hzero]
    nofun
  · rw [hwide]
    nofun

end Machine

end SecureMonitor
