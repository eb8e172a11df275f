/-
SecureMonitor/Bits.lean

Bit fields of 64-bit words.  A field is a number,

    field w lo width  =  w / 2^lo mod 2^width,

so that a word packed from fields is a sum, and linear arithmetic decides
what can be read back from it.  A single bit is the field of width one.
-/
namespace SecureMonitor

-- Powers are those of the core library, whatever else is in scope.
attribute [local instance (high)] instPowNat

/-- The number that the `width` bits of `w` from bit `lo` upwards hold. -/
def field (w : UInt64) (lo width : Nat) : Nat :=
  w.toNat / 2 ^ lo % 2 ^ width

/-- Bit `i` of `w` is set. -/
def bit (w : UInt64) (i : Nat) : Bool :=
  field w i 1 == 1

theorem field_lt (w : UInt64) (lo width : Nat) : field w lo width < 2 ^ width :=
  Nat.mod_lt _ (Nat.two_pow_pos width)

theorem bit_eq_true_iff {w : UInt64} {i : Nat} : bit w i = true ↔ field w i 1 = 1 := by
  simp [bit]

theorem bit_eq_false_iff {w : UInt64} {i : Nat} : bit w i = false ↔ field w i 1 = 0 := by
  have := field_lt w i 1
  simp only [bit, beq_eq_false_iff_ne]
  omega

end SecureMonitor
