/-
SecureMonitor/Trap/Vector.lean

The sixteen exception vectors: four origins by four kinds.  A vector is
named in three ways — by its origin and kind, by its tag

    tag  =  origin · 16 + kind + 1,

which the entry code hands over, and by its slot in the vector table.
Reading a tag accepts exactly the sixteen tags (`ofTag?_eq_some_iff`).
-/
import SecureMonitor.Hex

namespace SecureMonitor

/-! ### Origins and kinds -/

/-- The context that a trap came from. -/
inductive TrapOrigin
  /-- The monitor's own level, on the stack of the lower levels. -/
  | currentSp0
  /-- The monitor's own level, on its own stack. -/
  | currentSpx
  /-- A lower level that runs 64-bit code. -/
  | lowerAArch64
  /-- A lower level that runs 32-bit code. -/
  | lowerAArch32
deriving DecidableEq, Repr

namespace TrapOrigin

def all : List TrapOrigin := [currentSp0, currentSpx, lowerAArch64, lowerAArch32]

def index : TrapOrigin → Nat
  | currentSp0 => 0
  | currentSpx => 1
  | lowerAArch64 => 2
  | lowerAArch32 => 3

def ofIndex? : Nat → Option TrapOrigin
  | 0 => some currentSp0
  | 1 => some currentSpx
  | 2 => some lowerAArch64
  | 3 => some lowerAArch32
  | _ => none

/-- The trap came from below the monitor. -/
def isLower : TrapOrigin → Bool
  | lowerAArch64 | lowerAArch32 => true
  | currentSp0 | currentSpx => false

def text : TrapOrigin → String
  | currentSp0 => "current EL SP0"
  | currentSpx => "current EL SPx"
  | lowerAArch64 => "lower EL AArch64"
  | lowerAArch32 => "lower EL AArch32"

theorem index_of_ofIndex? {n : Nat} {o : TrapOrigin} (h : ofIndex? n = some o) : n = o.index := by
  unfold ofIndex? at h
  split at h <;> cases h <;> rfl

end TrapOrigin

/-- What a trap is. -/
inductive TrapKind
  | synchronous
  | irq
  | fiq
  | serror
deriving DecidableEq, Repr

namespace TrapKind

def all : List TrapKind := [synchronous, irq, fiq, serror]

def index : TrapKind → Nat
  | synchronous => 0
  | irq => 1
  | fiq => 2
  | serror => 3

def ofIndex? : Nat → Option TrapKind
  | 0 => some synchronous
  | 1 => some irq
  | 2 => some fiq
  | 3 => some serror
  | _ => none

/-- The interrupt controller has something to acknowledge for this kind. -/
def isInterrupt : TrapKind → Bool
  | irq | fiq => true
  | synchronous | serror => false

def text : TrapKind → String
  | synchronous => "sync"
  | irq => "irq"
  | fiq => "fiq"
  | serror => "serror"

theorem index_of_ofIndex? {n : Nat} {k : TrapKind} (h : ofIndex? n = some k) : n = k.index := by
  unfold ofIndex? at h
  split at h <;> cases h <;> rfl

end TrapKind

/-! ### Vectors -/

/-- One of the sixteen exception vectors. -/
structure TrapVector where
  origin : TrapOrigin
  kind : TrapKind
deriving DecidableEq, Repr

/-- Bytes of code that a vector has in the table. -/
def vectorSize : Nat := 0x80

/-- Vectors in the table. -/
def vectorCount : Nat := 16

/-- The alignment of the table, which is its size. -/
def vectorTableAlignment : Nat := 0x800

example : vectorSize * vectorCount = vectorTableAlignment := rfl

namespace TrapVector

/-- All vectors in the order of the table. -/
def all : List TrapVector :=
  TrapOrigin.all.flatMap fun o => TrapKind.all.map (⟨o, ·⟩)

/-- The number that the entry code hands over. -/
def tag (v : TrapVector) : Nat := v.origin.index * 16 + (v.kind.index + 1)

/-- The vector with the given tag. -/
def ofTag? (raw : UInt64) : Option TrapVector := do
  let origin ← TrapOrigin.ofIndex? (raw.toNat / 16)
  let kind ← match raw.toNat % 16 with
    | 0 => none
    | k + 1 => TrapKind.ofIndex? k
  return ⟨origin, kind⟩

/-- The position in the table. -/
def slot (v : TrapVector) : Nat := v.origin.index * 4 + v.kind.index

/-- The distance in bytes from the start of the table. -/
def offset (v : TrapVector) : Nat := v.slot * vectorSize

/-- A trap on the stack of the lower levels leaves the monitor none to work on. -/
def recoverable (v : TrapVector) : Bool := v.origin != .currentSp0

def text (v : TrapVector) : String :=
  s!"{v.kind.text} from {v.origin.text} (tag {Hex.padded 4 v.tag})"

/-- A word is read as a vector if and only if it is the vector's tag. -/
theorem ofTag?_eq_some_iff {raw : UInt64} {v : TrapVector} :
    ofTag? raw = some v ↔ raw = UInt64.ofNat v.tag := by
  constructor
  · intro h
    obtain ⟨o, ho, h⟩ := Option.bind_eq_some_iff.mp h
    have horigin := TrapOrigin.index_of_ofIndex? ho
    cases hlow : raw.toNat % 16 with
    | zero =>
      rw [hlow] at h
      cases h
    | succ m =>
      rw [hlow] at h
      obtain ⟨k, hk, h⟩ := Option.bind_eq_some_iff.mp h
      cases h
      have hkind := TrapKind.index_of_ofIndex? hk
      have htag : raw.toNat = TrapVector.tag ⟨o, k⟩ := by
        simp only [tag]
        omega
      rw [← htag, UInt64.ofNat_toNat]
  · rintro rfl
    obtain ⟨o, k⟩ := v
    cases o <;> cases k <;> rfl

end TrapVector

end SecureMonitor
