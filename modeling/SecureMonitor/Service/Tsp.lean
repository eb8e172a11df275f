/-
SecureMonitor/Service/Tsp.lean

The test secure payload.  It tracks a power state and whether a call of its
own was preempted, and it computes with x1 and x2.

A power function names the state it starts from (`startsFrom`) and the
state it leaves behind (`after`); it is refused in any other state.  The
functions that turn the core off or reset it also forget a preempted call.
Arithmetic works on words of the call's own width and wraps; only a
division by zero is refused.
-/
import SecureMonitor.Service.Power
import SecureMonitor.Call.Reply
import SecureMonitor.Journal.Notice

namespace SecureMonitor

/-! ### Arithmetic -/

inductive Operator
  | add
  | sub
  | mul
  | div
deriving DecidableEq, Repr

namespace Operator

/-- The result of an operation on words, which wrap; there is none for a
division by zero. -/
def apply {α : Type} [Add α] [Sub α] [Mul α] [Div α] [OfNat α 0] [DecidableEq α]
    (op : Operator) (a b : α) : Option α :=
  match op with
  | add => some (a + b)
  | sub => some (a - b)
  | mul => some (a * b)
  | div => if b = 0 then none else some (a / b)

/-- The result of an operation on registers at a call's width.  A 32-bit call
sees the lower halves and answers with a lower half. -/
def eval (op : Operator) (width : CallWidth) (a b : UInt64) : Option UInt64 :=
  match width with
  | .smc32 => (op.apply a.toUInt32 b.toUInt32).map UInt32.toUInt64
  | .smc64 => op.apply a b

end Operator

/-! ### Functions -/

/-- What the test payload can be asked to do. -/
inductive TspFunction
  | entry
  | cpuOn
  | cpuOff
  | cpuResume
  | abort
  | cpuSuspend
  | preempt
  | systemOff
  | systemReset
  | arithmetic (op : Operator)
deriving DecidableEq, Repr

/-- The test payload's state on one core. -/
@[ext]
structure Tsp where
  power : Power := .on
  /-- A call was preempted and neither aborted nor forgotten since. -/
  preempted : Bool := false
deriving DecidableEq, Repr

namespace TspFunction

def ofNumber? : Nat → Option TspFunction
  | 0 => some entry
  | 1 => some cpuOn
  | 2 => some cpuOff
  | 3 => some cpuResume
  | 4 => some abort
  | 5 => some cpuSuspend
  | 6 => some preempt
  | 7 => some systemOff
  | 8 => some systemReset
  | 0x2000 => some (arithmetic .add)
  | 0x2001 => some (arithmetic .sub)
  | 0x2002 => some (arithmetic .mul)
  | 0x2003 => some (arithmetic .div)
  | _ => none

/-- How the function completes. -/
def event : TspFunction → Event
  | entry => .entryDone
  | cpuOn => .onDone
  | cpuOff => .offDone
  | cpuResume => .resumeDone
  | abort => .abortDone
  | cpuSuspend => .suspendDone
  | preempt => .preempted
  | systemOff => .systemOffDone
  | systemReset => .systemResetDone
  | arithmetic _ => .entryDone

/-- The power state that the function starts from, if it asks for one. -/
def startsFrom : TspFunction → Option Power
  | cpuOn => some .off
  | cpuOff | cpuSuspend | preempt => some .on
  | cpuResume => some .suspended
  | entry | abort | systemOff | systemReset | arithmetic _ => none

/-- The state that the function leaves behind. -/
def after (f : TspFunction) (t : Tsp) : Tsp :=
  match f with
  | entry | arithmetic _ => t
  | cpuOn | cpuResume => { t with power := .on }
  | cpuSuspend => { t with power := .suspended }
  | preempt => { t with preempted := true }
  | abort => { t with preempted := false }
  | cpuOff | systemOff => { power := .off, preempted := false }
  | systemReset => { power := .on, preempted := false }

/-- Where the core goes on.  Turning on and suspending take an address in x1,
with zero for "after the call". -/
def resume (f : TspFunction) (x1 : UInt64) : Resume :=
  match f with
  | cpuOn | cpuSuspend => if x1 = 0 then .caller else .jump x1
  | _ => .caller

/-- The results of the function, unless its arguments are unfit. -/
def results (f : TspFunction) (width : CallWidth) (args : Operands) : Except Refusal Operands :=
  match f with
  | arithmetic op =>
    match op.eval width args.x1 args.x2 with
    | some x => .ok { x1 := x }
    | none => .error (.malformed .invalidArgument)
  | _ => .ok {}

end TspFunction

/-! ### Serving a call -/

namespace Tsp

/-- Why the function cannot run in this state, if it cannot. -/
def obstacle (t : Tsp) (f : TspFunction) : Option Denial :=
  match f.startsFrom with
  | some needed => if t.power = needed then none else some .lifecycleState
  | none => if f = .abort ∧ t.preempted = false then some .noPreemptedCall else none

/-- The answer to a call, and the state that it leaves, also if it is refused. -/
def handle (t : Tsp) (f : TspFunction) (request : Request) : Except Refusal Reply × Tsp :=
  match t.obstacle f with
  | some why => (.error (.denied why), t)
  | none =>
    match f.results request.id.width request.operands with
    | .error why => (.error why, t)
    | .ok results => (.ok ⟨f.event, results, f.resume request.operands.x1⟩, f.after t)

/-- What the payload tells the journal about a call. -/
def notices (t : Tsp) (f : TspFunction) : List Notice :=
  match f.startsFrom with
  | some needed => if t.power = needed then [] else [.powerMismatch t.power needed]
  | none => []

/-- Arithmetic runs in every state and changes none. -/
theorem obstacle_arithmetic (t : Tsp) (op : Operator) : t.obstacle (.arithmetic op) = none := by
  simp [obstacle, TspFunction.startsFrom]

end Tsp

end SecureMonitor
