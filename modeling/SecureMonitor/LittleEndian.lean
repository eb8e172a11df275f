/-
SecureMonitor/LittleEndian.lean

Words of eight bytes, lowest byte first.  Reading what was written gives
the word back (`read_write`), and every byte of what was read is found
again in the word (`byte_number`).
-/
namespace SecureMonitor.LittleEndian

-- Powers are those of the core library, whatever else is in scope.
attribute [local instance (high)] instPowNat

/-- The eight bytes of a word, lowest first. -/
def write (w : UInt64) : List UInt8 :=
  (List.range 8).map fun i => UInt8.ofNat (w.toNat / 256 ^ i)

/-- The number whose bytes are given, lowest first. -/
def number (bytes : List UInt8) : Nat :=
  bytes.foldr (fun b n => b.toNat + 256 * n) 0

/-- The word whose bytes are given, lowest first. -/
def read (bytes : List UInt8) : UInt64 := UInt64.ofNat (number bytes)

@[simp] theorem length_write (w : UInt64) : (write w).length = 8 := by simp [write]

theorem number_write (w : UInt64) : number (write w) = w.toNat := by
  have := w.toNat_lt
  simp only [number, write, List.range, List.range.loop, List.map_cons, List.map_nil,
    List.foldr_cons, List.foldr_nil, UInt8.toNat_ofNat']
  omega

@[simp] theorem read_write (w : UInt64) : read (write w) = w := by
  rw [read, number_write, UInt64.ofNat_toNat]

theorem getElem?_write (w : UInt64) {k : Nat} (h : k < 8) :
    (write w)[k]? = some (UInt8.ofNat (w.toNat / 256 ^ k)) := by
  simp [write, h]

/-- A number of few bytes is small. -/
theorem number_lt (bytes : List UInt8) : number bytes < 256 ^ bytes.length := by
  induction bytes with
  | nil => exact Nat.zero_lt_one
  | cons b bs ih =>
    have hb := b.toNat_lt
    show b.toNat + 256 * number bs < 256 ^ (bs.length + 1)
    rw [Nat.pow_succ]
    omega

/-- The bytes of a number are found again. -/
theorem byte_number {bytes : List UInt8} {k : Nat} {b : UInt8} (h : bytes[k]? = some b) :
    UInt8.ofNat (number bytes / 256 ^ k) = b := by
  induction bytes generalizing k with
  | nil => cases h
  | cons c cs ih =>
    have hc := c.toNat_lt
    cases k with
    | zero =>
      cases h
      apply UInt8.toNat_inj.mp
      show (b.toNat + 256 * number cs) / 256 ^ 0 % 2 ^ 8 = b.toNat
      rw [Nat.pow_zero, Nat.div_one]
      omega
    | succ k =>
      -- the first byte falls away with the first power of 256
      have hfirst : (c.toNat + 256 * number cs) / 256 = number cs := by omega
      show UInt8.ofNat ((c.toNat + 256 * number cs) / 256 ^ (k + 1)) = b
      rw [Nat.pow_succ', ← Nat.div_div_eq_div_mul, hfirst]
      exact ih h

end SecureMonitor.LittleEndian
