/-
SecureMonitor/Core/InFlight.lean

A trap in flight.  An idle core takes a trap through at most three
checkpoints, and another trap can come in at each of them:

    taken     nothing is known about the trap yet
    accepted  it is a call, and its service is about to be asked
    refused   it is a call, and its refusal is about to be written

`InFlight.next?` goes from a checkpoint to the one after it, and `finish`
goes on to the end.  Stopping on the way makes no difference, however often
(`finish_of_next?`, `finish_of_mem_stops`).
-/
import SecureMonitor.Core.Step

namespace SecureMonitor

open InterruptController

/-- A place at which a trap can be interrupted. -/
inductive Checkpoint
  | taken
  | accepted
  | refused
deriving DecidableEq, Repr

/-! ### Progress -/

/-- The core, the frame, and what the journal was told so far. -/
structure Progress where
  core : Core
  frame : Frame
  log : List Notice := []

namespace Progress

def enter (p : Progress) (phase : Phase) : Progress :=
  { p with core := { p.core with phase := phase } }

def tell (p : Progress) (log : List Notice) : Progress := { p with log := p.log ++ log }

/-- A call was found to ask for a function that exists. -/
def accept (p : Progress) (id : CallId) : Progress :=
  (p.enter .executing).tell [.routed id]

/-- A call was found wanting. -/
def refuse (p : Progress) (why : Refusal) : Progress :=
  (p.enter .returning).tell [.refused p.frame.callId why]

/-- Ask the service of an accepted call. -/
def perform (p : Progress) (id : CallId) (call : Call) :
    Except Refusal (Event × Frame) × Progress :=
  let done := p.core.perform p.frame id call
  (done.result, { p with core := done.core, log := p.log ++ done.log })

variable {γ : Type}

/-- Be done with the trap. -/
def leave (p : Progress) (phase : Phase) (result : Except Fault Outcome) (f : Frame)
    (controller : γ) : Step γ :=
  { result := result
    frame := f
    controller := controller
    log := p.log
    core := { p.core with phase := phase } }

/-- Write a refusal into the frame of its call. -/
def finishRefused (p : Progress) (why : Refusal) (controller : γ) : Step γ :=
  p.leave .idle (.ok (.refused why)) (p.frame.writeReturn why.value {}) controller

/-- Serve an accepted call and be done with it. -/
def finishAccepted (p : Progress) (id : CallId) (call : Call) (controller : γ) : Step γ :=
  match p.perform id call with
  | (.ok (event, f), p) => p.leave .idle (.ok (.completed event)) f controller
  | (.error why, p) => (p.refuse why).finishRefused why controller

/-- Find out what a trap is and be done with it. -/
def finishTaken [InterruptController γ] (p : Progress) (v : TrapVector) (controller : γ) :
    Step γ :=
  match v.disposition p.frame.esr with
  | .fatal fault =>
    (p.tell [.halting fault]).leave .halted (.error fault) p.frame controller
  | .forward =>
    let (controller, log) := serve v controller
    (p.tell log).leave .idle (.ok (.forwarded v.kind)) p.frame controller
  | .call =>
    let p := p.enter .routing
    match Call.route v.origin p.frame.callId with
    | .ok (id, call) => (p.accept id).finishAccepted id call controller
    | .error why => (p.refuse why).finishRefused why controller

end Progress

/-! ### Traps at a checkpoint -/

/-- A trap at a checkpoint. -/
inductive InFlight
  | taken (vector : TrapVector) (progress : Progress)
  | accepted (id : CallId) (call : Call) (progress : Progress)
  | refused (why : Refusal) (progress : Progress)

namespace InFlight

/-- A trap that an idle core takes. -/
def start (core : Core) (v : TrapVector) (f : Frame) : InFlight :=
  .taken v { core := { core with phase := .pending }, frame := f, log := [.taken v f.elr] }

def checkpoint : InFlight → Checkpoint
  | taken .. => .taken
  | accepted .. => .accepted
  | refused .. => .refused

def progress : InFlight → Progress
  | taken _ p | accepted _ _ p | refused _ p => p

/-- The journal hears of something else in the meantime. -/
def tell (t : InFlight) (log : List Notice) : InFlight :=
  match t with
  | taken v p => .taken v (p.tell log)
  | accepted id call p => .accepted id call (p.tell log)
  | refused why p => .refused why (p.tell log)

/-- The checkpoint after this one, if the trap comes to another. -/
def next? : InFlight → Option InFlight
  | taken v p =>
    match v.disposition p.frame.esr with
    | .fatal _ | .forward => none
    | .call =>
      let p := p.enter .routing
      match Call.route v.origin p.frame.callId with
      | .ok (id, call) => some (.accepted id call (p.accept id))
      | .error why => some (.refused why (p.refuse why))
  | accepted id call p =>
    match p.perform id call with
    | (.ok _, _) => none
    | (.error why, p) => some (.refused why (p.refuse why))
  | refused .. => none

/-- The trap at this checkpoint and at those that it comes to after it.  No
trap comes to more than two others. -/
def stops (t : InFlight) : List InFlight :=
  match t.next? with
  | none => [t]
  | some u =>
    match u.next? with
    | none => [t, u]
    | some w => [t, u, w]

/-- The trap at a given checkpoint, if it comes there. -/
def reach? (target : Checkpoint) (t : InFlight) : Option InFlight :=
  t.stops.find? (·.checkpoint == target)

theorem checkpoint_of_reach? {target : Checkpoint} {t u : InFlight}
    (h : t.reach? target = some u) : u.checkpoint = target := by
  simpa using List.find?_some h

variable {γ : Type} [InterruptController γ]

/-- Go on to the end. -/
def finish (t : InFlight) (controller : γ) : Step γ :=
  match t with
  | taken v p => p.finishTaken v controller
  | accepted id call p => p.finishAccepted id call controller
  | refused why p => p.finishRefused why controller

/-- Stopping at the next checkpoint and going on from there is the same as
going on at once. -/
theorem finish_of_next? {t u : InFlight} (h : t.next? = some u) (controller : γ) :
    t.finish controller = u.finish controller := by
  cases t with
  | taken v p =>
    -- only a call comes to a checkpoint after this one
    cases hd : v.disposition p.frame.esr with
    | fatal fault => simp [next?, hd] at h
    | forward => simp [next?, hd] at h
    | call =>
      simp only [next?, hd] at h
      simp only [finish, Progress.finishTaken, hd]
      split at h <;> cases h <;> simp_all
  | accepted id call p =>
    -- only a call that its service or the core refuses goes on from here
    simp only [next?] at h
    simp only [finish, Progress.finishAccepted]
    split at h <;> cases h
    simp_all
  | refused why p => simp [next?] at h

/-- So it is at any checkpoint further on. -/
theorem finish_of_mem_stops {t u : InFlight} (h : u ∈ t.stops) (controller : γ) :
    t.finish controller = u.finish controller := by
  unfold stops at h
  split at h
  · -- the trap stops nowhere else
    obtain rfl := List.mem_singleton.mp h
    rfl
  · rename_i v hv
    split at h
    · -- it stops once more
      simp only [List.mem_cons, List.not_mem_nil, or_false] at h
      rcases h with rfl | rfl
      · rfl
      · exact finish_of_next? hv controller
    · -- it stops twice more
      rename_i w hw
      simp only [List.mem_cons, List.not_mem_nil, or_false] at h
      rcases h with rfl | rfl | rfl
      · rfl
      · exact finish_of_next? hv controller
      · exact (finish_of_next? hv controller).trans (finish_of_next? hw controller)

theorem finish_of_reach? {target : Checkpoint} {t u : InFlight}
    (h : t.reach? target = some u) (controller : γ) :
    t.finish controller = u.finish controller :=
  finish_of_mem_stops (List.mem_of_find?_eq_some h) controller

end InFlight

end SecureMonitor
