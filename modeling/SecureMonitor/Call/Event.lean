/-
SecureMonitor/Call/Event.lean

Completion events: what a call that was served has in x0.  Each event has a
32-bit code of its own (`ofCode?_code`), and the code names the service
that served the call in the place where an identifier has its owner.
-/
import SecureMonitor.Call.Identifier

namespace SecureMonitor

/-- How a call completed. -/
inductive Event
  | entryDone
  | onDone
  | offDone
  | suspendDone
  | resumeDone
  | preempted
  | abortDone
  | systemOffDone
  | systemResetDone
  | opteeEntryDone
  | customEntryDone
deriving DecidableEq, Repr

namespace Event

/-- All events in the order of their services and codes. -/
def all : List Event :=
  [entryDone, onDone, offDone, suspendDone, resumeDone, preempted, abortDone,
    systemOffDone, systemResetDone, opteeEntryDone, customEntryDone]

/-- The code of a service that has one event only: the identifier of its function 0, as a
fast 32-bit call. -/
def entryCode (s : Service) : UInt32 := (CallId.encode ⟨.fast, .smc32, s, 0⟩).toUInt32

def code : Event → UInt32
  | entryDone => 0xf2000000
  | onDone => 0xf2000001
  | offDone => 0xf2000002
  | suspendDone => 0xf2000003
  | resumeDone => 0xf2000004
  | preempted => 0xf2000005
  | abortDone => 0xf2000007
  | systemOffDone => 0xf2000008
  | systemResetDone => 0xf2000009
  | opteeEntryDone => entryCode .optee
  | customEntryDone => entryCode .custom

/-- What the caller finds in x0. -/
def value (e : Event) : UInt64 := e.code.toUInt64

def ofCode? (code : UInt32) : Option Event := all.find? (·.code == code)

/-- The service whose calls complete so. -/
def owner : Event → Service
  | entryDone | onDone | offDone | suspendDone | resumeDone | preempted | abortDone
  | systemOffDone | systemResetDone => .tsp
  | opteeEntryDone => .optee
  | customEntryDone => .custom

@[simp] theorem ofCode?_code (e : Event) : ofCode? e.code = some e := by
  cases e <;> rfl

theorem code_injective {e f : Event} (h : e.code = f.code) : e = f := by
  have := ofCode?_code e
  rw [h, ofCode?_code] at this
  exact (Option.some.inj this).symm

end Event

end SecureMonitor
