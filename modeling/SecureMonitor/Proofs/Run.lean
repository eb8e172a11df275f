/-
SecureMonitor/Proofs/Run.lean

A core over time.  A monitor is set up, applets are registered with it, and
traps come in, in any order; the cores that this leads to are `Reachable`.
What holds of all of them is collected in one invariant (`Sound`):

* the level is the one the monitor was set up at;
* between traps the core is idle or has halted;
* a parked caller belongs to the non-secure world, and only a monitor at
  EL3 has one.

A run of traps is taken apart into its responses, the core and the
controller at its end.
-/
import SecureMonitor.Proofs.Handling

namespace SecureMonitor

variable {γ : Type} [InterruptController γ]

namespace Core

variable {core core' : Core} {level : Level} {f g : Frame} {id : CallId} {call : Call}
  {event : Event}

/-! ### What serving a call keeps -/

theorem Completes.level_eq (h : core.Completes f id call event g core') :
    core'.level = core.level := by
  cases h <;> rfl

theorem Completes.phase_eq (h : core.Completes f id call event g core') :
    core'.phase = core.phase := by
  cases h <;> rfl

/-- Applets come by registration only. -/
theorem Completes.applets_eq (h : core.Completes f id call event g core') :
    core'.services.applets = core.services.applets := by
  cases h <;> rfl

/-! ### The invariant -/

/-- What holds of a core of a monitor at `level` between traps. -/
structure Sound (level : Level) (core : Core) : Prop where
  level_eq : core.level = level
  settled : core.Settled
  parked : ∀ caller, core.parked = some caller →
    level = .el3 ∧ SecureConfig.world caller.scr = .nonSecure

theorem sound_fresh (level : Level) : (fresh level).Sound level where
  level_eq := rfl
  settled := .inl rfl
  parked _ h := nomatch h

theorem Sound.register (h : core.Sound level) (x : Applet) : (core.register x).2.Sound level where
  level_eq := h.level_eq
  settled := h.settled
  parked := h.parked

theorem Completes.sound (h : core.Completes f id call event g core') (hs : core.Sound level) :
    core'.Sound level := by
  refine ⟨h.level_eq.trans hs.level_eq, ?_, ?_⟩
  · rw [Settled, h.phase_eq]
    exact hs.settled
  · cases h with
    | tsp => exact hs.parked
    | optee => exact hs.parked
    | invoke hlevel hworld =>
      -- the frame that is parked now is that of the call
      rintro caller ⟨⟩
      exact ⟨hs.level_eq.symm.trans hlevel, hworld⟩
    | leave => exact fun _ hnone => nomatch hnone

theorem Handles.sound {v : TrapVector} {controller : γ} {step : Step γ}
    (h : core.Handles v f controller step) (hs : core.Sound level) : step.core.Sound level := by
  cases h with
  | ignored => exact hs
  | fatal => exact ⟨hs.level_eq, .inr rfl, hs.parked⟩
  | forwarded => exact hs
  | refused => exact hs
  | completed _ _ _ served => exact served.sound hs

theorem Sound.handle (hs : core.Sound level) (v : TrapVector) (f : Frame) (controller : γ) :
    (core.handle v f controller).core.Sound level :=
  (handles_handle hs.settled v f controller).sound hs

/-! ### Reachable cores -/

/-- The cores that a monitor at `level` comes to by registering applets and
handling traps. -/
inductive Reachable (γ : Type) [InterruptController γ] (level : Level) : Core → Prop
  | fresh : Reachable γ level (fresh level)
  | register {core : Core} (h : Reachable γ level core) (x : Applet) :
      Reachable γ level (core.register x).2
  | handle {core : Core} (h : Reachable γ level core) (v : TrapVector) (f : Frame)
      (controller : γ) : Reachable γ level (core.handle v f controller).core

theorem Reachable.sound (h : Reachable γ level core) : core.Sound level := by
  induction h with
  | fresh => exact sound_fresh level
  | register _ x ih => exact ih.register x
  | handle _ v f controller ih => exact ih.handle v f controller

/-! ### Runs -/

/-- A core with applets registered from the start. -/
def hosting (level : Level) (applets : List Applet) : Core :=
  applets.foldl (fun core x => (core.register x).2) (fresh level)

/-- The response to each trap of a run. -/
def responses (core : Core) (controller : γ) (traps : List (TrapVector × Frame)) :
    List (Response γ) := (core.run controller traps).1

/-- The core after a run. -/
def coreAfter (core : Core) (controller : γ) (traps : List (TrapVector × Frame)) : Core :=
  (core.run controller traps).2.1

/-- The controller after a run. -/
def controllerAfter (core : Core) (controller : γ) (traps : List (TrapVector × Frame)) : γ :=
  (core.run controller traps).2.2

section

variable (core : Core) (controller : γ) (v : TrapVector) (f : Frame)
  (traps : List (TrapVector × Frame))

@[simp] theorem responses_nil : core.responses controller [] = [] := rfl

@[simp] theorem coreAfter_nil : core.coreAfter controller [] = core := rfl

@[simp] theorem controllerAfter_nil : core.controllerAfter controller [] = controller := rfl

theorem responses_cons :
    core.responses controller ((v, f) :: traps) =
      (core.handle v f controller).toResponse ::
        (core.handle v f controller).core.responses (core.handle v f controller).controller
          traps := rfl

theorem coreAfter_cons :
    core.coreAfter controller ((v, f) :: traps) =
      (core.handle v f controller).core.coreAfter (core.handle v f controller).controller
        traps := rfl

theorem controllerAfter_cons :
    core.controllerAfter controller ((v, f) :: traps) =
      (core.handle v f controller).core.controllerAfter
        (core.handle v f controller).controller traps := rfl

theorem coreAfter_append (before after : List (TrapVector × Frame)) :
    core.coreAfter controller (before ++ after) =
      (core.coreAfter controller before).coreAfter (core.controllerAfter controller before)
        after := by
  simp [coreAfter, controllerAfter, run_append]

theorem controllerAfter_append (before after : List (TrapVector × Frame)) :
    core.controllerAfter controller (before ++ after) =
      (core.coreAfter controller before).controllerAfter (core.controllerAfter controller before)
        after := by
  simp [coreAfter, controllerAfter, run_append]

@[simp] theorem length_responses :
    (core.responses controller traps).length = traps.length := by
  induction traps generalizing core controller with
  | nil => rfl
  | cons t rest ih =>
    obtain ⟨v, f⟩ := t
    rw [responses_cons, List.length_cons, List.length_cons, ih]

variable {traps v f} {n : Nat}

/-- A trap of a run is handled by the core that the traps before it left. -/
theorem getElem?_responses (h : traps[n]? = some (v, f)) :
    (core.responses controller traps)[n]? =
      some ((core.coreAfter controller (traps.take n)).handle v f
        (core.controllerAfter controller (traps.take n))).toResponse := by
  induction traps generalizing core controller n with
  | nil => cases h
  | cons t rest ih =>
    obtain ⟨w, g⟩ := t
    cases n with
    | zero =>
      cases h
      rfl
    | succ n => exact ih _ _ h

theorem coreAfter_take_succ (h : traps[n]? = some (v, f)) :
    core.coreAfter controller (traps.take (n + 1)) =
      ((core.coreAfter controller (traps.take n)).handle v f
        (core.controllerAfter controller (traps.take n))).core := by
  rw [List.take_add_one, h, coreAfter_append]
  rfl

theorem controllerAfter_take_succ (h : traps[n]? = some (v, f)) :
    core.controllerAfter controller (traps.take (n + 1)) =
      ((core.coreAfter controller (traps.take n)).handle v f
        (core.controllerAfter controller (traps.take n))).controller := by
  rw [List.take_add_one, h, controllerAfter_append]
  rfl

end

/-- What every step keeps, of a core and of its controller, a run keeps. -/
theorem run_invariant {P : Core → γ → Prop}
    (hstep : ∀ core v f controller, P core controller →
      P (core.handle v f controller).core (core.handle v f controller).controller)
    (controller : γ) (h : P core controller) (traps : List (TrapVector × Frame)) :
    P (core.coreAfter controller traps) (core.controllerAfter controller traps) := by
  induction traps generalizing core controller with
  | nil => exact h
  | cons t rest ih =>
    obtain ⟨v, f⟩ := t
    exact ih _ (hstep core v f controller h)

/-- Registering applets changes the applets only. -/
theorem hosting_eq (level : Level) (applets : List Applet) :
    ∃ a : Applets, hosting level applets = { level := level, services := { applets := a } } := by
  suffices h : ∀ a : Applets, ∃ b : Applets,
      applets.foldl (fun core x => (core.register x).2)
        ({ level := level, services := { applets := a } } : Core) =
        { level := level, services := { applets := b } } from h {}
  induction applets with
  | nil => exact fun a => ⟨a, rfl⟩
  | cons x rest ih => exact fun a => ih (a.register x).2

theorem phase_hosting (level : Level) (applets : List Applet) :
    (hosting level applets).phase = .idle := by
  obtain ⟨a, h⟩ := hosting_eq level applets
  rw [h]

theorem parked_hosting (level : Level) (applets : List Applet) :
    (hosting level applets).parked = none := by
  obtain ⟨a, h⟩ := hosting_eq level applets
  rw [h]

theorem sound_hosting (level : Level) (applets : List Applet) :
    (hosting level applets).Sound level := by
  obtain ⟨a, h⟩ := hosting_eq level applets
  rw [h]
  exact ⟨rfl, .inl rfl, fun _ hnone => nomatch hnone⟩

/-- A run keeps the invariant. -/
theorem Sound.coreAfter (hs : core.Sound level) (controller : γ)
    (traps : List (TrapVector × Frame)) : (core.coreAfter controller traps).Sound level := by
  have hstep (core : Core) (v : TrapVector) (f : Frame) (controller : γ)
      (h : core.Sound level) : (core.handle v f controller).core.Sound level :=
    h.handle v f controller
  exact run_invariant hstep controller hs traps

end Core

end SecureMonitor
