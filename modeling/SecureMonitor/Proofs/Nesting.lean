/-
SecureMonitor/Proofs/Nesting.lean

Traps within traps.  A trap that is abandoned at a checkpoint leaves its core
busy: in the phase of that checkpoint, and otherwise as it was before the
trap (`Untouched`).  A busy core takes nothing on.  What comes in next is
turned away:

    call                     refused as busy, in the frame of that call
    interrupt, system error  handed on
    fatal trap               the core halts

so that nothing but the phase ever changes, and the phase only once
(`coreAfter_of_busy`).  In particular a core that was left busy does not come
back to idle, and no call that is made in the meantime gets to a service.
-/
import SecureMonitor.Proofs.Halting

namespace SecureMonitor

/-! ### Abandoned traps -/

/-- The phase that a core is in at a checkpoint. -/
def Checkpoint.phase : Checkpoint → Phase
  | taken => .pending
  | accepted => .executing
  | refused => .returning

namespace InFlight

/-- The trap has come to its checkpoint without touching anything of `core`
but its phase, nor its frame `f`. -/
structure Untouched (core : Core) (f : Frame) (t : InFlight) : Prop where
  core_eq : t.progress.core = { core with phase := t.checkpoint.phase }
  frame_eq : t.progress.frame = f

variable {core : Core} {f : Frame} {t u : InFlight}

theorem untouched_start (core : Core) (v : TrapVector) (f : Frame) :
    (start core v f).Untouched core f where
  core_eq := rfl
  frame_eq := rfl

/-- On the way to the next checkpoint nothing is touched either.  A service
that refuses its call has kept what it had, and so has one whose reply the
core refuses. -/
theorem Untouched.next (h : t.Untouched core f) (hu : t.next? = some u) :
    u.Untouched core f := by
  obtain ⟨hcore, hframe⟩ := h
  cases t with
  | taken v p =>
    cases hd : v.disposition p.frame.esr with
    | fatal fault => simp [next?, hd] at hu
    | forward => simp [next?, hd] at hu
    | call =>
      simp only [next?, hd] at hu
      change p.core = _ at hcore
      split at hu <;> cases hu
      · exact ⟨congrArg (fun c : Core => { c with phase := .executing }) hcore, hframe⟩
      · exact ⟨congrArg (fun c : Core => { c with phase := .returning }) hcore, hframe⟩
  | accepted id call p =>
    simp only [next?] at hu
    split at hu
    · cases hu
    · rename_i why q hp
      cases hu
      rw [Progress.perform, Prod.mk.injEq] at hp
      obtain ⟨hresult, rfl⟩ := hp
      change p.core = _ at hcore
      refine ⟨?_, hframe⟩
      show ({ (p.core.perform p.frame id call).core with phase := .returning } : Core) = _
      rw [Core.perform_core_of_error hresult, hcore]
      rfl
  | refused why p => simp [next?] at hu

theorem Untouched.of_mem_stops (h : t.Untouched core f) (hu : u ∈ t.stops) :
    u.Untouched core f := by
  unfold stops at hu
  split at hu
  · obtain rfl := List.mem_singleton.mp hu
    exact h
  · rename_i v hv
    split at hu
    · simp only [List.mem_cons, List.not_mem_nil, or_false] at hu
      rcases hu with rfl | rfl
      · exact h
      · exact h.next hv
    · rename_i w hw
      simp only [List.mem_cons, List.not_mem_nil, or_false] at hu
      rcases hu with rfl | rfl | rfl
      · exact h
      · exact h.next hv
      · exact (h.next hv).next hw

end InFlight

namespace Core

/-- A core that is stopped on its way through a trap is as it was before the
trap, but for its phase. -/
theorem untouched_of_reach? {core : Core} {v : TrapVector} {f : Frame} {target : Checkpoint}
    {t : InFlight} (h : core.reach? v f target = some t) :
    t.progress.core = { core with phase := target.phase } ∧ t.progress.frame = f := by
  unfold reach? at h
  split at h
  · have hu := (InFlight.untouched_start core v f).of_mem_stops (List.mem_of_find?_eq_some h)
    rw [← InFlight.checkpoint_of_reach? h]
    exact ⟨hu.core_eq, hu.frame_eq⟩
  · cases h

/-! ### A busy core -/

variable {γ : Type} [InterruptController γ] {core : Core}

section

variable (hi : core.phase ≠ .idle) (hh : core.phase ≠ .halted)

include hi hh

/-- A trap that is not fatal leaves a busy core as it is. -/
theorem core_handle_of_busy {v : TrapVector} {f : Frame} (hf : v.fault? f = none)
    (controller : γ) : (core.handle v f controller).core = core := by
  cases hd : v.disposition f.esr with
  | fatal fault => exact nomatch hf.symm.trans (TrapVector.disposition_eq_fatal_iff.mp hd)
  | forward => exact (handle_of_forward hh hd controller).2.2.2
  | call => exact (handle_of_nested_call hi hh hd controller).2.2.2

/-- A run changes the phase of a busy core at most, and that only by halting it. -/
theorem coreAfter_of_busy (controller : γ) (traps : List (TrapVector × Frame)) :
    core.coreAfter controller traps =
      { core with phase := if traps.any isFatal then .halted else core.phase } := by
  induction traps generalizing controller with
  | nil => rfl
  | cons t rest ih =>
    obtain ⟨v, f⟩ := t
    rw [coreAfter_cons, List.any_cons]
    cases hf : v.fault? f with
    | some fault =>
      have hfatal : isFatal (v, f) = true := by simp [isFatal, hf]
      obtain ⟨-, -, -, hcore⟩ := handle_of_fault rfl hf controller hh
      rw [hcore, coreAfter_of_halted rfl, hfatal, Bool.true_or, if_pos rfl]
    | none =>
      have hnot : isFatal (v, f) = false := by simp [isFatal, hf]
      rw [core_handle_of_busy hi hh hf, ih, hnot, Bool.false_or]

end

/-- Before the first fatal trap of a run, each trap comes to the busy core
that the run began with. -/
theorem getElem?_responses_of_busy (hi : core.phase ≠ .idle) (hh : core.phase ≠ .halted)
    (controller : γ) {traps : List (TrapVector × Frame)} {n : Nat} {v : TrapVector} {f : Frame}
    (ht : traps[n]? = some (v, f)) (hbefore : (traps.take n).any isFatal = false) :
    ∃ device : γ, (core.responses controller traps)[n]? =
      some (core.handle v f device).toResponse := by
  have hsame : core.coreAfter controller (traps.take n) = core := by
    rw [coreAfter_of_busy hi hh, hbefore]
    rfl
  refine ⟨core.controllerAfter controller (traps.take n), ?_⟩
  rw [getElem?_responses _ _ ht, hsame]

/-- A busy core nests nothing.  Whatever traps come in while a core is at
another one: after any number of them the core is the same, but that it has
halted if a fatal trap was among them; before that, a monitor call from below
is refused as busy, whatever its registers hold, and only its own x0 to x3
are written, and an interrupt or system error is handed on with its frame as
it was; at the first fatal trap the run stops.  And if the core was left busy
by a trap that was abandoned at a checkpoint, it is the core from before
that trap in all but its phase. -/
theorem busy_core_nests_nothing (hi : core.phase ≠ .idle) (hh : core.phase ≠ .halted)
    (controller : γ) (traps : List (TrapVector × Frame)) :
    let responses := core.responses controller traps
    (∀ n, core.coreAfter controller (traps.take n) =
      { core with phase := if (traps.take n).any isFatal then .halted else core.phase }) ∧
    (∀ n v f, traps[n]? = some (v, f) → (traps.take n).any isFatal = false →
      (v.kind = .synchronous → v.origin = .lowerAArch64 ∨ v.origin = .lowerAArch32 →
        field f.esr 26 6 = 0x13 ∨ field f.esr 26 6 = 0x17 →
        ∃ r, responses[n]? = some r ∧ r.result = .ok (.refused .busy) ∧
          f.Answered (-4) {} r.frame) ∧
      (v.kind ≠ .synchronous → v.origin ≠ .currentSp0 →
        ∃ r, responses[n]? = some r ∧ r.result = .ok (.forwarded v.kind) ∧ r.frame = f)) ∧
    (∀ i, traps.findIdx? isFatal = some i →
      ∃ v f fault, traps[i]? = some (v, f) ∧ v.fault? f = some fault ∧
        core.StopsAt controller traps i fault) ∧
    ∀ (outer : Core) (v : TrapVector) (f : Frame) (target : Checkpoint) (t : InFlight),
      outer.reach? v f target = some t → t.progress.core = core →
        core = { outer with phase := target.phase } ∧ t.progress.frame = f := by
  intro responses
  refine ⟨?_, ?_, ?_, ?_⟩
  · exact fun n => coreAfter_of_busy hi hh controller _
  · intro n v f ht hbefore
    obtain ⟨device, hresponse⟩ := getElem?_responses_of_busy hi hh controller ht hbefore
    refine ⟨?_, ?_⟩
    · intro hkind horigin hclass
      have hcall : v.disposition f.esr = .call := by
        refine TrapVector.disposition_eq_call_iff.mpr ⟨hkind, ?_, ?_⟩
        · exact TrapOrigin.isLower_iff.mpr horigin
        · exact Syndrome.isCall_iff.mpr hclass.symm
      obtain ⟨hresult, hframe, -⟩ := handle_of_nested_call hi hh hcall device
      refine ⟨_, hresponse, hresult, ?_⟩
      rw [hframe]
      exact Frame.answered_writeReturn f Refusal.busy.value {}
    · intro hkind horigin
      have hforward : v.disposition f.esr = .forward :=
        TrapVector.disposition_eq_forward_iff.mpr ⟨horigin, hkind⟩
      obtain ⟨hresult, hframe, -⟩ := handle_of_forward hh hforward device
      exact ⟨_, hresponse, hresult, hframe⟩
  · exact fun i hfirst => stopsAt_of_findIdx? rfl controller hfirst hh
  · rintro outer v f target t hreach rfl
    exact untouched_of_reach? hreach

/-- A call to turn the core off is abandoned when its service is about to be
asked, and what comes next is a reset, an interrupt and a fault of the
monitor itself.  The core is neither reset nor turned off. -/
theorem busy_core_nests_nothing_reset :
    let outer := hosting .el3 [⟨0x0e200000, 0x0e300000⟩]
    let reset := Frame.calling 1 0xf2000008 {}
    let traps : List (TrapVector × Frame) :=
      [(⟨.lowerAArch64, .synchronous⟩, reset), (⟨.lowerAArch64, .irq⟩, Frame.calling 1 0 {}),
        (⟨.currentSp0, .synchronous⟩, Frame.calling 0 0 {}),
        (⟨.lowerAArch64, .synchronous⟩, reset)]
    ∃ t, outer.reach? ⟨.lowerAArch64, .synchronous⟩ (Frame.calling 1 0xf2000002 {}) .accepted =
        some t ∧
      t.progress.core = { outer with phase := .executing } ∧
      t.progress.core.coreAfter (⟨[some 5]⟩ : InterruptQueue) traps =
        { outer with phase := .halted } ∧
      (∃ r, (t.progress.core.responses (⟨[some 5]⟩ : InterruptQueue) traps)[0]? = some r ∧
        r.result = .ok (.refused .busy) ∧ reset.Answered (-4) {} r.frame) ∧
      ∃ fault, t.progress.core.StopsAt (⟨[some 5]⟩ : InterruptQueue) traps 2 fault := by
  intro outer reset traps
  have hreached : (outer.reach? ⟨.lowerAArch64, .synchronous⟩ (Frame.calling 1 0xf2000002 {})
      .accepted).isSome = true := by decide +zetaReduce
  obtain ⟨t, ht⟩ := Option.isSome_iff_exists.mp hreached
  have hcore := (untouched_of_reach? ht).1
  have hphase : t.progress.core.phase = .executing := by rw [hcore]; rfl
  obtain ⟨hafter, hserved, hstops, hbefore⟩ :=
    busy_core_nests_nothing (by rw [hphase]; decide) (by rw [hphase]; decide)
      (⟨[some 5]⟩ : InterruptQueue) traps
  refine ⟨t, ht, (hbefore _ _ _ _ _ ht rfl).1, ?_, ?_, ?_⟩
  · have hall : traps.any isFatal = true := by decide +zetaReduce
    have hend := hafter 4
    rw [show traps.take 4 = traps from rfl, hall, if_pos rfl] at hend
    rw [hend, hcore]
  · exact (hserved 0 _ _ rfl rfl).1 rfl (.inl rfl) (.inr (by decide))
  · obtain ⟨v, f, fault, -, -, hat⟩ := hstops 2 (by decide +zetaReduce)
    exact ⟨fault, hat⟩

end Core

end SecureMonitor
