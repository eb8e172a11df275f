/-
SecureMonitor/Service/OpTee.lean

The message interface of the trusted operating system, as far as the
monitor answers it itself.  It counts the messages it was handed, which
only a yielding call can do, and tells its revision.
-/
import SecureMonitor.Call.Reply
import SecureMonitor.Journal.Notice

namespace SecureMonitor

/-! ### Functions -/

inductive OpTeeFunction
  /-- Log the text at the address in x1. -/
  | log
  /-- Take the message argument at the address in x1 and x2. -/
  | callWithArg
  | callsRevision
deriving DecidableEq, Repr

def OpTeeFunction.ofNumber? : Nat → Option OpTeeFunction
  | 1 => some log
  | 4 => some callWithArg
  | 0xff03 => some callsRevision
  | _ => none

/-! ### Serving a call -/

/-- The message interface's state on one core. -/
@[ext]
structure OpTee where
  /-- Message arguments taken so far. -/
  messages : UInt64 := 0
deriving DecidableEq, Repr

namespace OpTee

/-- The first result of a call that went well. -/
def success : UInt64 := 0

def revisionMajor : UInt64 := 2
def revisionMinor : UInt64 := 0

/-- The answer to a call, and the state that it leaves, also if it is refused. -/
def handle (s : OpTee) (f : OpTeeFunction) (request : Request) : Except Refusal Reply × OpTee :=
  match f with
  | .log => (.ok { event := .opteeEntryDone, results := { x1 := success } }, s)
  | .callWithArg =>
    if request.id.callType = .yielding then
      (.ok { event := .opteeEntryDone, results := { x1 := success } },
        { s with messages := s.messages + 1 })
    else (.error (.malformed .callTypeMismatch), s)
  | .callsRevision =>
    (.ok { event := .opteeEntryDone,
           results := { x1 := revisionMajor, x2 := revisionMinor } }, s)

/-- What the interface tells the journal about a call. -/
def notices (f : OpTeeFunction) (request : Request) : List Notice :=
  match f with
  | .log => [.logRequest request.operands.x1]
  | .callWithArg =>
    if request.id.callType = .yielding then
      [.messageTaken request.operands.x1 request.operands.x2]
    else []
  | .callsRevision => []

end OpTee

end SecureMonitor
