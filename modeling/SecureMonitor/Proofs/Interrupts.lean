/-
SecureMonitor/Proofs/Interrupts.lean

The account of the interrupt controller.  A core asks the controller for an
interrupt in one case only: a normal or a fast interrupt comes in on a vector
with a stack, and the core has not halted.  It then asks once, and completes
what it is given before it goes on, also if it was at another trap
(`controller_of_interrupt`, `controller_of_other`).

With a queue for a controller the whole account follows.  After any run

    acknowledged  =  the first entries of the queue, one per such interrupt
    completed     =  those of them that are no spurious answers

so that the account is `Balanced`: nothing is completed that was not
acknowledged, nothing twice, and nothing is left over.
-/
import SecureMonitor.Interrupt.Accounted
import SecureMonitor.Interrupt.Queue
import SecureMonitor.Proofs.Run

namespace SecureMonitor

open InterruptController

variable {γ : Type} [InterruptController γ]

/-! ### When the controller is asked -/

/-- A trap that has the monitor ask for an interrupt. -/
def TrapVector.bringsInterrupt (v : TrapVector) : Prop :=
  (v.kind = .irq ∨ v.kind = .fiq) ∧ v.origin ≠ .currentSp0

theorem TrapKind.isInterrupt_iff {k : TrapKind} : k.isInterrupt = true ↔ k = .irq ∨ k = .fiq := by
  cases k <;> simp [isInterrupt]

namespace TrapVector

variable {v : TrapVector} {esr : UInt64}

theorem bringsInterrupt.forward (h : v.bringsInterrupt) : v.disposition esr = .forward := by
  refine disposition_eq_forward_iff.mpr ⟨h.2, ?_⟩
  intro hk
  rw [bringsInterrupt, hk] at h
  rcases h.1 with h | h <;> cases h

/-- Of the traps that are handed on, a system error brings no interrupt. -/
theorem isInterrupt_of_not_bringsInterrupt (h : ¬v.bringsInterrupt)
    (found : v.disposition esr = .forward) : v.kind.isInterrupt = false := by
  rw [Bool.eq_false_iff]
  intro hk
  exact h ⟨TrapKind.isInterrupt_iff.mp hk, (disposition_eq_forward_iff.mp found).1⟩

end TrapVector

namespace Core

variable {core : Core} {v : TrapVector}

/-- An interrupt is served, whether the core is idle or at another trap. -/
theorem controller_of_interrupt (h : core.phase ≠ .halted) (hv : v.bringsInterrupt) (f : Frame)
    (controller : γ) : (core.handle v f controller).controller = (serve v controller).1 :=
  (handle_of_forward h hv.forward controller).2.2.1

/-- Nothing else is brought before the controller. -/
theorem controller_of_other (h : ¬(v.bringsInterrupt ∧ core.phase ≠ .halted)) (f : Frame)
    (controller : γ) : (core.handle v f controller).controller = controller := by
  by_cases hh : core.phase = .halted
  · rw [handle_of_halted hh]
    rfl
  · have hv : ¬v.bringsInterrupt := fun hv => h ⟨hv, hh⟩
    cases hd : v.disposition f.esr with
    | fatal fault => exact (handle_of_fatal hh hd controller).2.2.1
    | call => exact controller_of_call hd controller
    | forward =>
      rw [(handle_of_forward hh hd controller).2.2.1]
      exact serve_of_not_interrupt (TrapVector.isInterrupt_of_not_bringsInterrupt hv hd) controller

end Core

/-! ### One interrupt in the account -/

namespace InterruptQueue

theorem acknowledge_eq (q : InterruptQueue) :
    acknowledge q = (q.pending.head?.join, ⟨q.pending.tail⟩) := by
  obtain ⟨_ | ⟨first, rest⟩⟩ := q <;> rfl

/-- What the queue answers to its first `k` acknowledges: its entries, and
nothing but spurious answers after the last one. -/
def answers (q : InterruptQueue) (k : Nat) : List (Option UInt32) :=
  (List.range k).map fun i => q.pending[i]?.join

theorem answers_succ (q : InterruptQueue) (k : Nat) :
    q.answers (k + 1) = q.answers k ++ [q.pending[k]?.join] := by
  rw [answers, List.range_succ, List.map_append]
  rfl

end InterruptQueue

namespace Accounted

/-- Serving an interrupt asks the device once, and what the device gives is
completed at once. -/
theorem serve_eq {v : TrapVector} (hk : v.kind.isInterrupt = true) (a : Accounted γ) :
    (serve v a).1.acknowledged = a.acknowledged ++ [(acknowledge a.device).1] ∧
      (serve v a).1.completed = a.completed ++ (acknowledge a.device).1.toList := by
  cases hanswer : (acknowledge a.device).1 with
  | none =>
    have ha : acknowledge a = (none, (acknowledge a).2) := Prod.ext hanswer rfl
    rw [serve_of_acknowledge_none hk ha, acknowledged_acknowledge, completed_acknowledge]
    exact ⟨congrArg (a.acknowledged ++ [·]) hanswer, (List.append_nil _).symm⟩
  | some interrupt =>
    have ha : acknowledge a = (some interrupt, (acknowledge a).2) := Prod.ext hanswer rfl
    rw [serve_of_acknowledge_some hk ha, completed_complete, completed_acknowledge]
    exact ⟨congrArg (a.acknowledged ++ [·]) hanswer, rfl⟩

/-- The account of a device that began as `queue`, between two traps. -/
structure Balanced (queue : InterruptQueue) (a : Accounted InterruptQueue) : Prop where
  acknowledged : a.acknowledged = queue.answers a.acknowledged.length
  waiting : a.device.pending = queue.pending.drop a.acknowledged.length
  completed : a.completed = a.interrupts

theorem balanced_start (queue : InterruptQueue) : Balanced queue { device := queue } where
  acknowledged := rfl
  waiting := rfl
  completed := rfl

theorem device_serve {v : TrapVector} (hk : v.kind.isInterrupt = true)
    (a : Accounted InterruptQueue) : (serve v a).1.device = ⟨a.device.pending.tail⟩ := by
  have ha : (acknowledge a).2.device = ⟨a.device.pending.tail⟩ :=
    congrArg Prod.snd (InterruptQueue.acknowledge_eq a.device)
  cases hanswer : (acknowledge a).1 with
  | none =>
    rw [serve_of_acknowledge_none hk (Prod.ext hanswer rfl)]
    exact ha
  | some interrupt =>
    -- completing an interrupt does not touch the queue
    rw [serve_of_acknowledge_some hk (Prod.ext hanswer rfl)]
    exact ha

theorem Balanced.serve {queue : InterruptQueue} {a : Accounted InterruptQueue}
    (h : Balanced queue a) {v : TrapVector} (hk : v.kind.isInterrupt = true) :
    Balanced queue (serve v a).1 := by
  obtain ⟨hacknowledged, hcompleted⟩ := serve_eq hk a
  -- what comes out is the entry after those that came out before
  have hanswer : (acknowledge a.device).1 = queue.pending[a.acknowledged.length]?.join := by
    rw [InterruptQueue.acknowledge_eq, h.waiting, List.head?_drop]
  have hlength : (InterruptController.serve v a).1.acknowledged.length =
      a.acknowledged.length + 1 := by
    rw [hacknowledged, List.length_append, List.length_singleton]
  refine ⟨?_, ?_, ?_⟩
  · rw [hlength, InterruptQueue.answers_succ, ← h.acknowledged, hacknowledged, hanswer]
  · rw [device_serve hk, hlength, h.waiting, List.tail_drop]
  · rw [hcompleted, h.completed, interrupts, interrupts, hacknowledged, List.filterMap_append]
    cases (acknowledge a.device).1 <;> rfl

end Accounted

/-! ### The account of a run -/

namespace Core

variable {core : Core}

theorem balanced_handle {queue : InterruptQueue} {a : Accounted InterruptQueue}
    (h : a.Balanced queue) (v : TrapVector) (f : Frame) :
    (core.handle v f a).controller.Balanced queue := by
  by_cases hv : v.bringsInterrupt ∧ core.phase ≠ .halted
  · rw [controller_of_interrupt hv.2 hv.1]
    exact h.serve (TrapKind.isInterrupt_iff.mpr hv.1.1)
  · rw [controller_of_other hv]
    exact h

theorem balanced_controllerAfter {queue : InterruptQueue} {a : Accounted InterruptQueue}
    (h : a.Balanced queue) (traps : List (TrapVector × Frame)) :
    (core.controllerAfter a traps).Balanced queue := by
  have hstep (core : Core) (v : TrapVector) (f : Frame) (a : Accounted InterruptQueue)
      (h : a.Balanced queue) : (core.handle v f a).controller.Balanced queue :=
    balanced_handle h v f
  exact run_invariant hstep a h traps

/-- Interrupts are completed once and in order.  Whatever a core is at,
whatever waits in the queue of its controller and whatever traps it is
handed one after another: each interrupt on a vector with a stack that finds
the core not halted is one acknowledge, and what is acknowledged is completed
before the next trap; no other trap has the controller do anything; and after
any number of traps the answers so far are the first entries of the queue,
and exactly the interrupts among them have been completed, in that order. -/
theorem interrupts_are_completed_in_order (core : Core) (queue : InterruptQueue)
    (traps : List (TrapVector × Frame)) :
    let account : Accounted InterruptQueue := { device := queue }
    let coreAt := fun n => core.coreAfter account (traps.take n)
    let accountAt := fun n => core.controllerAfter account (traps.take n)
    (∀ n v f, traps[n]? = some (v, f) → v.bringsInterrupt → (coreAt n).phase ≠ .halted →
      ∃ answer, (accountAt (n + 1)).acknowledged = (accountAt n).acknowledged ++ [answer] ∧
        (accountAt (n + 1)).completed = (accountAt n).completed ++ answer.toList) ∧
    (∀ n v f, traps[n]? = some (v, f) → ¬(v.bringsInterrupt ∧ (coreAt n).phase ≠ .halted) →
      accountAt (n + 1) = accountAt n) ∧
    (∀ n, (accountAt n).completed = (accountAt n).acknowledged.filterMap id) ∧
    ∀ n, (accountAt n).acknowledged = queue.answers (accountAt n).acknowledged.length := by
  intro account coreAt accountAt
  have hbalanced (n : Nat) : (accountAt n).Balanced queue :=
    balanced_controllerAfter (Accounted.balanced_start queue) _
  refine ⟨?_, ?_, ?_, ?_⟩
  · intro n v f ht hv hphase
    have hnext : accountAt (n + 1) = (serve v (accountAt n)).1 :=
      (controllerAfter_take_succ core account ht).trans
        (controller_of_interrupt hphase hv f (accountAt n))
    rw [hnext]
    exact ⟨_, Accounted.serve_eq (TrapKind.isInterrupt_iff.mpr hv.1) (accountAt n)⟩
  · intro n v f ht hother
    exact (controllerAfter_take_succ core account ht).trans
      (controller_of_other hother f (accountAt n))
  · exact fun n => (hbalanced n).completed
  · exact fun n => (hbalanced n).acknowledged

/-- A core in the middle of a call: one interrupt, one spurious answer, and
then a fault after which the rest of the queue is left alone. -/
theorem interrupts_are_completed_in_order_nested :
    let core : Core := { fresh .el3 with phase := .executing }
    let traps : List (TrapVector × Frame) :=
      [(⟨.lowerAArch64, .irq⟩, Frame.calling 1 0 {}),
        (⟨.lowerAArch32, .serror⟩, Frame.calling 1 0 {}),
        (⟨.currentSpx, .fiq⟩, Frame.calling 1 0 {}),
        (⟨.currentSp0, .irq⟩, Frame.calling 1 0 {}),
        (⟨.lowerAArch64, .irq⟩, Frame.calling 1 0 {})]
    let account := core.controllerAfter
      ({ device := ⟨[some 27, none, some 30]⟩ } : Accounted InterruptQueue) traps
    account.acknowledged = [some 27, none] ∧ account.completed = [27] := by
  intro core traps account
  obtain ⟨-, -, hcompleted, hacknowledged⟩ :=
    interrupts_are_completed_in_order core ⟨[some 27, none, some 30]⟩ traps
  have hlength : account.acknowledged.length = 2 := by decide +zetaReduce
  have hanswers : account.acknowledged = [some 27, none] := by
    refine (hacknowledged 5).trans ?_
    show InterruptQueue.answers ⟨[some 27, none, some 30]⟩ account.acknowledged.length = _
    rw [hlength]
    rfl
  refine ⟨hanswers, (hcompleted 5).trans ?_⟩
  show account.acknowledged.filterMap id = _
  rw [hanswers]
  rfl

end Core

end SecureMonitor
