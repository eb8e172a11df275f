/-
SecureMonitor/Core.lean

The monitor's state on one core, and what serving a call does to it.

A world switch replaces the trapped frame.  On the way into an applet the
frame is parked and a fresh one takes its place; on the way back the parked
frame is taken out again.  One frame can be parked at a time, and only a
monitor at EL3 can switch at all — it is asked first, the parking place
second (`Core.resume`).
-/
import SecureMonitor.Services

namespace SecureMonitor

/-! ### State -/

/-- How far a core has come with the trap it is at. -/
inductive Phase
  /-- There is no trap. -/
  | idle
  /-- A trap came in and nothing is known about it. -/
  | pending
  /-- It is a call, whose function is being looked up. -/
  | routing
  /-- Its service is at work. -/
  | executing
  /-- Its answer is about to be written. -/
  | returning
  /-- A trap was fatal; this is for good. -/
  | halted
deriving DecidableEq, Repr

/-- The monitor's state on one core. -/
@[ext]
structure Core where
  level : Level
  phase : Phase := .idle
  services : Services := {}
  /-- The caller that waits while an applet runs. -/
  parked : Option Frame := none
deriving DecidableEq, Repr

namespace Core

/-- A core before its first trap. -/
def fresh (level : Level) : Core := { level }

/-- Register an applet; see `Applets.register`. -/
def register (core : Core) (x : Applet) : Option Nat × Core :=
  let (number, applets) := core.services.applets.register x
  (number, { core with services := { core.services with applets := applets } })

/-! ### Going on after a call -/

/-- The frame to go on with and the frame to park. -/
def resume (core : Core) (f : Frame) : Resume → Except Refusal (Frame × Option Frame)
  | .caller => .ok (f, core.parked)
  | .jump entry => .ok ({ f with elr := entry }, core.parked)
  | .enter world entry stack =>
    if core.level.canSwitchWorlds = false then .error (.denied .worldSwitchUnavailable)
    else match core.parked with
      | some _ => .error .busy
      | none => .ok (f.entering world entry stack, some f)
  | .restore =>
    if core.level.canSwitchWorlds = false then .error (.denied .worldSwitchUnavailable)
    else match core.parked with
      | some caller => .ok (caller, none)
      | none => .error (.denied .noParkedContext)

/-- What going on tells the journal. -/
def resumeNotices (core : Core) : Resume → List Notice
  | .caller | .jump _ => []
  | .enter world entry _ =>
    if core.level.canSwitchWorlds = false then [.noWorldSwitch core.level]
    else match core.parked with
      | some _ => []
      | none => [.entering world entry]
  | .restore =>
    if core.level.canSwitchWorlds = false then [.noWorldSwitch core.level]
    else match core.parked with
      | some caller => [.restored caller.elr]
      | none => []

/-! ### Serving a call -/

/-- A trapped call as its service sees it. -/
def request (core : Core) (f : Frame) (id : CallId) : Request :=
  ⟨id, f.operands, f.world core.level⟩

/-- What became of a call: how it completed and with which frame the core
goes on, or why it is refused; and the core afterwards. -/
structure Performed where
  result : Except Refusal (Event × Frame)
  core : Core
  log : List Notice

/-- Serve a call.  The services keep what they did, even if they refuse the call or
the core then cannot go on as they ask. -/
def perform (core : Core) (f : Frame) (id : CallId) (call : Call) : Performed :=
  let request := core.request f id
  let told := core.services.notices call request
  let (answer, services) := core.services.serve call request
  -- from here on the services have done their part, whatever comes of the call
  let core := { core with phase := .returning, services := services }
  match answer with
  | .error why => ⟨.error why, core, told⟩
  | .ok reply =>
    let told := told ++ core.resumeNotices reply.resume
    match core.resume f reply.resume with
    | .error why => ⟨.error why, core, told⟩
    | .ok (next, parked) =>
      ⟨.ok (reply.event, next.writeReturn reply.event.value reply.results),
        { core with parked := parked }, told⟩

end Core

end SecureMonitor
