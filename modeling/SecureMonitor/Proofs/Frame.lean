/-
SecureMonitor/Proofs/Frame.lean

What becomes of a frame when its call is answered and when the core changes
worlds, said field by field:

* an answer writes x0 to x3 and nothing else (`answered_writeReturn`), and
  that pins the new frame down (`Answered.eq_writeReturn`);
* setting the world writes the lowest bit of the secure configuration and
  keeps the other 63 (`bit_withWorld`).
-/
import SecureMonitor.Frame

namespace SecureMonitor

/-! ### The bit of the world -/

theorem bit_eq_testBit (w : UInt64) (i : Nat) : bit w i = w.toNat.testBit i := by
  rw [Nat.testBit_eq_decide_div_mod_eq]
  rfl

namespace SecureConfig

@[simp] theorem world_withWorld (w : World) (scr : UInt64) : world (withWorld w scr) = w := by
  cases w with
  | nonSecure =>
    rw [world_eq_nonSecure_iff]
    simp [has, withWorld, bit_eq_testBit, Flag.position]
  | secure =>
    rw [world_eq_secure_iff]
    simp [has, withWorld, bit_eq_testBit, Flag.position, UInt64.size]

/-- Every bit but that of the world is kept. -/
theorem bit_withWorld (w : World) (scr : UInt64) {i : Nat} (h : i ≠ 0) :
    bit (withWorld w scr) i = bit scr i := by
  obtain ⟨j, rfl⟩ := Nat.exists_eq_succ_of_ne_zero h
  have hone : Nat.testBit 1 (j + 1) = false := by simp [Nat.testBit_add_one]
  cases w with
  | nonSecure => simp [withWorld, bit_eq_testBit, hone]
  | secure =>
    -- beyond bit 63 there is nothing to keep
    rw [bit_eq_testBit, bit_eq_testBit, withWorld, UInt64.toNat_and, Nat.testBit_and]
    have hmask : (~~~1 : UInt64).toNat = 2 ^ 64 - (1 + 1) := rfl
    rw [hmask, Nat.testBit_two_pow_sub_succ (by decide), hone]
    rcases Nat.lt_or_ge (j + 1) 64 with hj | hj
    · simp [hj]
    · have hlt : scr.toNat < 2 ^ (j + 1) :=
        Nat.lt_of_lt_of_le scr.toNat_lt (Nat.pow_le_pow_right (by decide) hj)
      rw [Nat.testBit_lt_two_pow hlt, Bool.false_and]

end SecureConfig

/-! ### Answers -/

namespace Frame

/-- `g` is `f` with an answer in x0 to x3, and the same in everything else. -/
structure Answered (f : Frame) (x0 : UInt64) (results : Operands) (g : Frame) : Prop where
  x0 : g.arg 0 = x0
  results : g.operands = results
  elr : g.elr = f.elr
  spsr : g.spsr = f.spsr
  scr : g.scr = f.scr
  esr : g.esr = f.esr
  spLower : g.spLower = f.spLower
  spEl1 : g.spEl1 = f.spEl1
  kept : ∀ n, 4 ≤ n → g.arg n = f.arg n

theorem answered_writeReturn (f : Frame) (x0 : UInt64) (results : Operands) :
    f.Answered x0 results (f.writeReturn x0 results) where
  x0 := arg_writeReturn_zero f x0 results
  results := operands_writeReturn f x0 results
  elr := rfl
  spsr := rfl
  scr := rfl
  esr := rfl
  spLower := rfl
  spEl1 := rfl
  kept _ h := arg_writeReturn_of_ge f x0 results h

/-- Frames with the same registers as seen by `arg` have the same registers. -/
theorem regs_eq_of_arg {f g : Frame} (h : ∀ n, f.arg n = g.arg n) : f.regs = g.regs := by
  apply Vector.ext
  intro n hn
  rw [← arg_eq_getElem f hn, ← arg_eq_getElem g hn, h n]

/-- There is only one way to write an answer. -/
theorem Answered.eq_writeReturn {f g : Frame} {x0 : UInt64} {results : Operands}
    (h : f.Answered x0 results g) : g = f.writeReturn x0 results := by
  have hw := answered_writeReturn f x0 results
  have hops := h.results.trans hw.results.symm
  simp only [operands, Operands.mk.injEq] at hops
  have hregs : g.regs = (f.writeReturn x0 results).regs := by
    apply regs_eq_of_arg
    intro n
    rcases Nat.lt_or_ge n 4 with hn | hn
    · obtain rfl | rfl | rfl | rfl : n = 0 ∨ n = 1 ∨ n = 2 ∨ n = 3 := by omega
      · exact h.x0.trans hw.x0.symm
      · exact hops.1
      · exact hops.2.1
      · exact hops.2.2
    · exact (h.kept n hn).trans (hw.kept n hn).symm
  exact Frame.ext h.elr h.spsr h.scr h.esr hregs h.spLower h.spEl1

/-- The frame in which 64-bit code makes a call, with its world and arguments. -/
def calling (scr id : UInt64) (args : Operands) : Frame :=
  writeReturn { elr := 0x1000, scr := scr, esr := 0x5e000000 } id args

@[simp] theorem callId_calling (scr id : UInt64) (args : Operands) :
    (calling scr id args).callId = id :=
  arg_writeReturn_zero ..

end Frame

end SecureMonitor
