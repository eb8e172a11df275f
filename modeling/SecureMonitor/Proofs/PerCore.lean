/-
SecureMonitor/Proofs/PerCore.lean

One core of many.  Of the operations on a machine a core sees its share: the
registrations, which go to all cores, and its own traps (`localTo?`).  From
the moment the monitor is set up

    the core in the machine          after    all operations
    a core that stands by itself     after    its share of them

are the same core and have given the same responses (`simulates`).  It is a
simulation of the machine by one core at a time: an operation is either a
step of both or of the machine only, and one that goes to another core is
not even noticed.
-/
import SecureMonitor.Interrupt.CpuInterface
import SecureMonitor.Machine.Operation
import SecureMonitor.Proofs.Frame

namespace SecureMonitor

variable {γ : Type}

/-! ### The share of a core -/

/-- An operation as one core sees it. -/
inductive LocalOperation (γ : Type)
  | register (applet : Applet)
  | trap (vector : TrapVector) (frame : Frame) (controller : γ)

/-- What an operation is to core `i`, if it is anything to it.  Setting the
monitor up is not an operation on a core: it makes a new one. -/
def Operation.localTo? (i : Nat) : Operation γ → Option (LocalOperation γ)
  | .boot _ => none
  | .register x => some (.register x)
  | .trap a => if a.core = i then some (.trap a.vector a.frame a.controller) else none

variable [InterruptController γ]

namespace Core

/-- Do one operation. -/
def apply (core : Core) : LocalOperation γ → Core
  | .register x => (core.register x).2
  | .trap v f controller => (core.handle v f controller).core

/-- Do operations one after another. -/
def applyAll (core : Core) (operations : List (LocalOperation γ)) : Core :=
  operations.foldl apply core

/-- The response to an operation, if it is a trap. -/
def answer? (core : Core) : LocalOperation γ → Option (Response γ)
  | .register _ => none
  | .trap v f controller => some (core.handle v f controller).toResponse

/-- The responses to the traps among some operations, in order. -/
def answers (core : Core) : List (LocalOperation γ) → List (Response γ)
  | [] => []
  | operation :: rest => (core.answer? operation).toList ++ (core.apply operation).answers rest

end Core

namespace Machine

/-- The response to an operation, if it is a trap on core `i`. -/
def answerOn? (i : Nat) (m : Machine) : Operation γ → Option (Response γ)
  | .boot _ | .register _ => none
  | .trap a => if a.core = i then some (m.handle a).2 else none

/-- The responses to the traps on core `i` among some operations, in order. -/
def answersOn (i : Nat) (m : Machine) : List (Operation γ) → List (Response γ)
  | [] => []
  | operation :: rest =>
    (m.answerOn? i operation).toList ++ (m.apply operation).answersOn i rest

variable {m : Machine} {core : Core} {i : Nat}

theorem answersOn_append (i : Nat) (m : Machine) (xs ys : List (Operation γ)) :
    m.answersOn i (xs ++ ys) = m.answersOn i xs ++ (m.applyAll xs).answersOn i ys := by
  induction xs generalizing m with
  | nil => rfl
  | cons operation rest ih =>
    rw [List.cons_append, answersOn, answersOn, ih, applyAll_cons, List.append_assoc]

/-! ### One operation -/

/-- A registration reaches every core. -/
theorem coreAt_register (h : m.coreAt i = .ok core) (x : Applet) :
    (m.register x).2.coreAt i = .ok (core.register x).2 := by
  obtain ⟨_ | cores⟩ := m
  · -- before the monitor is set up no core is found
    unfold coreAt at h
    split at h <;> cases h
  · unfold coreAt at h ⊢
    split at h
    · rename_i hi
      cases h
      simp [register, hi]
    · cases h

/-- A trap is handled by the core that it is for. -/
theorem coreAt_handle_self {a : Arrival γ} (h : m.coreAt a.core = .ok core) :
    (m.handle a).1.coreAt a.core = .ok (core.handle a.vector a.frame a.controller).core := by
  rw [handle_of_coreAt_ok h]
  exact coreAt_setCore_self h _

/-- A trap leaves the other cores as they are. -/
theorem coreAt_handle_of_ne {a : Arrival γ} (h : a.core ≠ i) :
    (m.handle a).1.coreAt i = m.coreAt i := by
  cases ha : m.coreAt a.core with
  | error fault => rw [handle_of_coreAt_error ha]
  | ok core =>
    rw [handle_of_coreAt_ok ha]
    exact coreAt_setCore_of_ne m h _

/-- One operation on the machine is one on the core, or none. -/
theorem simulates_apply (h : m.coreAt i = .ok core) {operation : Operation γ}
    (hboot : ∀ level, operation ≠ .boot level) :
    (m.apply operation).coreAt i = .ok (core.applyAll (operation.localTo? i).toList) ∧
      m.answerOn? i operation = (operation.localTo? i).bind core.answer? := by
  cases operation with
  | boot level => exact absurd rfl (hboot level)
  | register x => exact ⟨coreAt_register h x, rfl⟩
  | trap a =>
    by_cases ha : a.core = i
    · subst ha
      have hhandle := handle_of_coreAt_ok h
      simp only [apply, answerOn?, Operation.localTo?, if_pos, hhandle]
      exact ⟨coreAt_setCore_self h _, rfl⟩
    · simp only [apply, answerOn?, Operation.localTo?, if_neg ha]
      exact ⟨(coreAt_handle_of_ne ha).trans h, rfl⟩

/-! ### Sequences of operations -/

/-- As long as the monitor is not set up anew, a core of the machine and a core
that is given its share of the operations go together. -/
theorem simulates (h : m.coreAt i = .ok core) {operations : List (Operation γ)}
    (hboot : ∀ level, .boot level ∉ operations) :
    (m.applyAll operations).coreAt i =
        .ok (core.applyAll (operations.filterMap (Operation.localTo? i))) ∧
      m.answersOn i operations = core.answers (operations.filterMap (Operation.localTo? i)) := by
  induction operations generalizing m core with
  | nil => exact ⟨h, rfl⟩
  | cons operation rest ih =>
    have hfirst : ∀ level, operation ≠ .boot level := by
      rintro level rfl
      exact hboot level List.mem_cons_self
    have hrest : ∀ level, .boot level ∉ rest := fun level hmem =>
      hboot level (List.mem_cons_of_mem _ hmem)
    obtain ⟨hcore, hanswer⟩ := simulates_apply h hfirst
    obtain ⟨hcores, hanswers⟩ := ih hcore hrest
    rw [applyAll_cons, answersOn, hanswer, hanswers, hcores]
    cases hlocal : operation.localTo? i with
    | none =>
      rw [List.filterMap_cons_none hlocal]
      exact ⟨rfl, rfl⟩
    | some own =>
      rw [List.filterMap_cons_some hlocal]
      exact ⟨rfl, rfl⟩

/-- A trap finds no core before the monitor is set up. -/
theorem handle_cold (a : Arrival γ) : (cold.handle a).1 = cold := by
  rcases Nat.lt_or_ge a.core coreCount with ha | ha
  · rw [handle_of_coreAt_error (coreAt_cold ha)]
  · rw [handle_of_coreAt_error (coreAt_of_ge cold ha)]

/-- Until the monitor is set up nothing comes of any operation. -/
theorem applyAll_cold {operations : List (Operation γ)}
    (hboot : ∀ level, .boot level ∉ operations) : cold.applyAll operations = cold := by
  induction operations with
  | nil => rfl
  | cons operation rest ih =>
    have hrest := ih fun level hmem => hboot level (List.mem_cons_of_mem _ hmem)
    rw [applyAll_cons]
    cases operation with
    | boot level => exact absurd List.mem_cons_self (hboot level)
    | register x => exact hrest
    | trap a =>
      rw [apply, handle_cold]
      exact hrest

/-- Every core of the machine stands by itself.  In any sequence of
operations, from the last time the monitor is set up: the responses to the
traps on a core, and the core in the end, are those of a fresh core that is
given the registrations and its own traps only, and so they are the same in
any other sequence that has the same share for that core.  A trap on a core
that the board does not have, and a trap before the monitor is first set up,
is told so; its frame is as it was, and so is the whole machine. -/
theorem cores_stand_alone (operations : List (Operation γ)) :
    (∀ before level after i, operations = before ++ .boot level :: after →
      (∀ l, .boot l ∉ after) → i < coreCount →
        cold.answersOn i operations = cold.answersOn i before ++
          (Core.fresh level).answers (after.filterMap (Operation.localTo? i)) ∧
        (cold.applyAll operations).coreAt i =
          .ok ((Core.fresh level).applyAll (after.filterMap (Operation.localTo? i))) ∧
        ∀ other : List (Operation γ), (∀ l, .boot l ∉ other) →
          other.filterMap (Operation.localTo? i) = after.filterMap (Operation.localTo? i) →
          cold.answersOn i (before ++ .boot level :: other) = cold.answersOn i operations) ∧
    (∀ before a after, operations = before ++ .trap a :: after → coreCount ≤ a.core →
      (cold.applyAll before).handle a =
        (cold.applyAll before, .fatal (.unknownCore a.core) a.frame a.controller)) ∧
    ∀ before a after, operations = before ++ .trap a :: after → (∀ l, .boot l ∉ before) →
      a.core < coreCount →
      (cold.applyAll before).handle a =
        (cold.applyAll before, .fatal .uninitialized a.frame a.controller) := by
  have hanswers {before after : List (Operation γ)} {level : Level} {i : Nat}
      (hlast : ∀ l, .boot l ∉ after) (hi : i < coreCount) :
      cold.answersOn i (before ++ .boot level :: after) = cold.answersOn i before ++
        (Core.fresh level).answers (after.filterMap (Operation.localTo? i)) := by
    rw [answersOn_append, answersOn, apply_boot, (simulates (coreAt_boot level hi) hlast).2]
    rfl
  refine ⟨?_, ?_, ?_⟩
  · rintro before level after i rfl hlast hi
    refine ⟨hanswers hlast hi, ?_, ?_⟩
    · rw [applyAll_append, applyAll_cons, apply_boot]
      exact (simulates (coreAt_boot level hi) hlast).1
    · intro other hother hshare
      rw [hanswers hother hi, hanswers hlast hi, hshare]
  · rintro before a after - ha
    exact handle_of_coreAt_error (coreAt_of_ge _ ha)
  · rintro before a after - hfirst ha
    rw [applyAll_cold hfirst]
    exact handle_of_coreAt_error (coreAt_cold ha)

/-- Core 0 halts and core 1 enters an applet.  Neither is anything to the
other, and what was before the monitor was set up again is forgotten. -/
theorem cores_stand_alone_side_by_side :
    let interface : CpuInterface := CpuInterface.offer {} 1023
    let invoke := Frame.calling 0x401 0xbd000001 {}
    let onCore := fun i v f => (Operation.trap ⟨i, v, f, interface⟩ : Operation CpuInterface)
    let before := [onCore 1 ⟨.lowerAArch64, .synchronous⟩ invoke, .boot .el1,
      onCore 1 ⟨.currentSp0, .synchronous⟩ invoke]
    let after := [.register ⟨0x0e200000, 0x0e300000⟩, onCore 0 ⟨.currentSp0, .synchronous⟩ invoke,
      onCore 1 ⟨.lowerAArch64, .synchronous⟩ invoke, onCore 0 ⟨.lowerAArch64, .synchronous⟩ invoke]
    let share := [.register ⟨0x0e200000, 0x0e300000⟩,
      .trap ⟨.lowerAArch64, .synchronous⟩ invoke interface]
    cold.answersOn 1 (before ++ .boot .el3 :: after) =
        cold.answersOn 1 before ++ (Core.fresh .el3).answers share ∧
      ((Core.fresh .el3).answers share).map (·.result) = [.ok (.completed .customEntryDone)] := by
  intro interface invoke onCore before after share
  obtain ⟨hanswers, -⟩ := (cores_stand_alone (before ++ .boot .el3 :: after)).1 before .el3 after 1
    rfl (by simp [after, onCore]) (by decide)
  have hresult : ((Core.fresh .el3).answers [.register ⟨0x0e200000, 0x0e300000⟩,
      .trap ⟨.lowerAArch64, .synchronous⟩ (Frame.calling 0x401 0xbd000001 {})
        (CpuInterface.offer {} 1023)]).map (·.result) = [.ok (.completed .customEntryDone)] := rfl
  exact ⟨hanswers, hresult⟩

end Machine

end SecureMonitor
