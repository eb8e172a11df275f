/-
SecureMonitor/Call/Identifier.lean

Call identifiers: the 32-bit number in x0 that tells what a call asks for.

    bit  31      fast call (otherwise yielding)
    bit  30      64-bit call (otherwise 32-bit)
    bits 29:24   owning entity number
    bits 23:17   zero
    bit  16      a hint in fast calls, zero in yielding ones
    bits 15:0    function number

`encode` is the sum of these fields.  `decode` looks for faults from the
top down and reports the first: upper half, reserved bits, owner.  It drops
the hint, so a fast call has two identifiers that decode alike, and every
other call has one.
-/
import SecureMonitor.Bits
import SecureMonitor.Service
import SecureMonitor.Call.Refusal

namespace SecureMonitor

/-! ### The parts of an identifier -/

inductive CallType
  | yielding
  | fast
deriving DecidableEq, Repr

namespace CallType

def index : CallType → Nat
  | yielding => 0
  | fast => 1

def name : CallType → String
  | yielding => "Yielding"
  | fast => "Fast"

end CallType

/-- The width of a call's registers. -/
inductive CallWidth
  | smc32
  | smc64
deriving DecidableEq, Repr

namespace CallWidth

def index : CallWidth → Nat
  | smc32 => 0
  | smc64 => 1

def name : CallWidth → String
  | smc32 => "Smc32"
  | smc64 => "Smc64"

end CallWidth

/-- A call identifier, taken apart. -/
structure CallId where
  callType : CallType
  width : CallWidth
  owner : Service
  number : UInt16
deriving DecidableEq, Repr

namespace CallId

/-! ### Writing -/

/-- The identifier as a number. -/
def code (id : CallId) : Nat :=
  id.callType.index * 0x80000000 + id.width.index * 0x40000000 + id.owner.owner * 0x1000000 +
    id.number.toNat

/-- The identifier as a register holds it. -/
def encode (id : CallId) : UInt64 := UInt64.ofNat id.code

theorem code_lt (id : CallId) : id.code < 0x100000000 := by
  have h1 : id.callType.index < 2 := by cases id.callType <;> decide
  have h2 : id.width.index < 2 := by cases id.width <;> decide
  have h3 := id.owner.owner_lt
  have h4 := id.number.toNat_lt
  simp only [code]
  omega

@[simp] theorem toNat_encode (id : CallId) : id.encode.toNat = id.code := by
  have := id.code_lt
  simp only [encode, UInt64.toNat_ofNat']
  omega

/-- The identifier in the journal's short form. -/
def text (id : CallId) : String := Hex.padded 10 id.code

/-- The identifier and its parts. -/
def description (id : CallId) : String :=
  s!"{id.text} ({id.callType.name} {id.width.name} {id.owner.name} #{Hex.text id.number.toNat})"

/-! ### Reading -/

/-- The owning entity number of a raw identifier. -/
def ownerNumber (raw : UInt64) : Nat := field raw 24 6

def callTypeOf (raw : UInt64) : CallType := if bit raw 31 then .fast else .yielding

def widthOf (raw : UInt64) : CallWidth := if bit raw 30 then .smc64 else .smc32

def numberOf (raw : UInt64) : UInt16 := UInt16.ofNat (field raw 0 16)

/-- The identifier does not fit in 32 bits. -/
def upperBitsSet (raw : UInt64) : Bool := field raw 32 32 != 0

/-- A bit is set that must be zero for the type of the call. -/
def reservedBitsSet (raw : UInt64) : Bool :=
  field raw 17 7 != 0 || (callTypeOf raw == .yielding && bit raw 16)

/-- Take a raw identifier apart, or tell its first fault. -/
def decode (raw : UInt64) : Except Refusal CallId :=
  if upperBitsSet raw then .error (.malformed .upperBitsSet)
  else if reservedBitsSet raw then .error (.malformed .reservedBitsSet)
  else match Service.ofOwner? (ownerNumber raw) with
    | none => .error (.unrecognizedEntity (ownerNumber raw))
    | some owner => .ok ⟨callTypeOf raw, widthOf raw, owner, numberOf raw⟩

end CallId

end SecureMonitor
