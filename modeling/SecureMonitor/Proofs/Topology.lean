/-
SecureMonitor/Proofs/Topology.lean

Which cores the board can tell apart.  An affinity register names a core by four
fields, and the board has a state for each of eight cores:

    aff3  aff2  aff1  aff0
     0     0    0, 1  0 to 3       index  aff1 · 4 + aff0

The index of a core is taken from `aff0` and `aff1` alone.  It is one to one
between the eight cores and the numbers below `coreCount`, and a core whose lower
two fields fit no cluster has no state.  The upper two fields are not looked at:
a core that differs from one of the eight in nothing else has the same index
(`coreIndex_eq_iff_of_fitsCluster`), and its traps go to the state of that other core.
-/
import Mathlib.Algebra.Group.Nat.Defs
import SecureMonitor.Interrupt.Queue
import SecureMonitor.Machine.Deliver
import SecureMonitor.Proofs.Frame

namespace SecureMonitor

/-! ### Affinities -/

/-- The four affinity fields of a core, from the core in its cluster upwards. -/
@[ext]
structure Affinity where
  aff0 : Nat
  aff1 : Nat
  aff2 : Nat
  aff3 : Nat
deriving DecidableEq, Repr

namespace Affinity

/-- The affinity that a register holds.  Its bits 31:24 hold no affinity field. -/
def ofRegister (mpidr : UInt64) : Affinity :=
  { aff0 := field mpidr 0 8
    aff1 := field mpidr 8 8
    aff2 := field mpidr 16 8
    aff3 := field mpidr 32 8 }

/-- The lower two fields name one of four cores in one of two clusters. -/
structure FitsCluster (a : Affinity) : Prop where
  aff0 : a.aff0 < 4
  aff1 : a.aff1 < 2

/-- The affinity is that of a core of this board. -/
structure OnBoard (a : Affinity) : Prop extends a.FitsCluster where
  aff2 : a.aff2 = 0
  aff3 : a.aff3 = 0

/-- Two cores whose lower two fields are the same. -/
structure SameLow (a b : Affinity) : Prop where
  aff0 : a.aff0 = b.aff0
  aff1 : a.aff1 = b.aff1

/-- A register that holds the affinity of core `i` of the board. -/
def registerOf (i : Nat) : UInt64 := UInt64.ofNat (i / 4 * 2 ^ 8 + i % 4)

end Affinity

open Affinity (ofRegister registerOf)

/-! ### Indices -/

theorem coreIndex_of_fitsCluster {mpidr : UInt64} (h : (ofRegister mpidr).FitsCluster) :
    coreIndex mpidr = (ofRegister mpidr).aff1 * 4 + (ofRegister mpidr).aff0 :=
  coreIndex_of_lt h.aff0

/-- A core has a state if its lower two fields fit a cluster. -/
theorem coreIndex_lt_coreCount_iff {mpidr : UInt64} :
    coreIndex mpidr < coreCount ↔ (ofRegister mpidr).FitsCluster := by
  constructor
  · intro h
    have hcore : field mpidr 0 8 < 4 := by
      -- else the index would be `noCore`, which is below nothing
      refine Nat.lt_of_not_le fun hge => ?_
      rw [coreIndex_of_ge hge] at h
      exact absurd h (by decide)
    rw [coreIndex_of_lt hcore] at h
    refine ⟨hcore, ?_⟩
    simp only [coresPerCluster, coreCount] at h
    simp only [ofRegister]
    omega
  · intro h
    have hcore := h.aff0
    have hcluster := h.aff1
    rw [coreIndex_of_fitsCluster h]
    simp only [coreCount]
    omega

/-- Two cores have one state if their lower two fields are the same. -/
theorem coreIndex_eq_iff_of_fitsCluster {m n : UInt64} (hm : (ofRegister m).FitsCluster)
    (hn : (ofRegister n).FitsCluster) :
    coreIndex m = coreIndex n ↔ (ofRegister m).SameLow (ofRegister n) := by
  rw [coreIndex_of_fitsCluster hm, coreIndex_of_fitsCluster hn]
  have hcore := hm.aff0
  have hcore' := hn.aff0
  constructor
  · -- the quotient and the remainder by four
    intro h
    exact ⟨by omega, by omega⟩
  · rintro ⟨hcore, hcluster⟩
    rw [hcore, hcluster]

/-- A word holds nothing above its own length. -/
theorem field_eq_zero_of_lt {w : UInt64} {lo : Nat} (h : w.toNat < 2 ^ lo) (width : Nat) :
    field w lo width = 0 := by
  rw [field, Nat.div_eq_of_lt h, Nat.zero_mod]

/-- Every index below `coreCount` is that of a core of the board. -/
theorem coreIndex_registerOf {i : Nat} (h : i < coreCount) :
    (ofRegister (registerOf i)).OnBoard ∧ coreIndex (registerOf i) = i := by
  simp only [coreCount] at h
  have hword : (registerOf i).toNat = i / 4 * 2 ^ 8 + i % 4 :=
    UInt64.toNat_ofNat_of_lt (by simp only [UInt64.size]; omega)
  have hfits : (ofRegister (registerOf i)).FitsCluster := by
    constructor
    · simp only [ofRegister, field, hword]
      omega
    · simp only [ofRegister, field, hword]
      omega
  refine ⟨⟨hfits, ?_, ?_⟩, ?_⟩
  · exact field_eq_zero_of_lt (by omega) 8
  · exact field_eq_zero_of_lt (by omega) 8
  · rw [coreIndex_of_fitsCluster hfits]
    simp only [ofRegister, field, hword]
    omega

/-! ### States -/

namespace Machine

variable {γ : Type} [InterruptController γ]

/-- A trap on a core that fits no cluster is answered so, and changes nothing. -/
theorem handle_of_not_fitsCluster (machine : Machine) (a : Arrival γ) {mpidr : UInt64}
    (hcore : a.core = coreIndex mpidr) (h : ¬(ofRegister mpidr).FitsCluster) :
    machine.handle a =
      (machine, .fatal (.unknownCore (coreIndex mpidr)) a.frame a.controller) := by
  rw [← coreIndex_lt_coreCount_iff, Nat.not_lt, ← hcore] at h
  rw [handle_of_coreAt_error (machine.coreAt_of_ge h), hcore]

/-- What the lower two affinity fields of a core tell, and what they do not.  Two
cores `m` and `n` have one state exactly if their lower two fields are the same and
fit a cluster; they are the same core if the upper two are the same as well.  A core
has no state exactly if its lower two fields fit no cluster, and its traps are then
answered as those of an unknown core.  The eight cores of the board have just the
indices below `coreCount`. -/
theorem cores_told_apart_by_low_affinity (machine : Machine) (a : Arrival γ) (m n : UInt64) :
    (coreIndex m < coreCount ∧ coreIndex m = coreIndex n ↔
      (ofRegister m).FitsCluster ∧ (ofRegister m).SameLow (ofRegister n)) ∧
    (coreIndex m < coreCount → coreIndex m = coreIndex n →
      (ofRegister m = ofRegister n ↔
        (ofRegister m).aff2 = (ofRegister n).aff2 ∧
          (ofRegister m).aff3 = (ofRegister n).aff3)) ∧
    (coreCount ≤ coreIndex m ↔ ¬(ofRegister m).FitsCluster) ∧
    (¬(ofRegister m).FitsCluster →
      machine.handle { a with core := coreIndex m } =
        (machine, .fatal (.unknownCore (coreIndex m)) a.frame a.controller)) ∧
    ((ofRegister m).OnBoard →
      coreIndex m = (ofRegister m).aff1 * 4 + (ofRegister m).aff0 ∧ coreIndex m < coreCount) ∧
    ∀ i < coreCount, ∃ mpidr, (ofRegister mpidr).OnBoard ∧ coreIndex mpidr = i := by
  have shared : coreIndex m < coreCount ∧ coreIndex m = coreIndex n ↔
      (ofRegister m).FitsCluster ∧ (ofRegister m).SameLow (ofRegister n) := by
    constructor
    · rintro ⟨hlt, heq⟩
      have hm := coreIndex_lt_coreCount_iff.mp hlt
      have hn := coreIndex_lt_coreCount_iff.mp (heq ▸ hlt)
      exact ⟨hm, (coreIndex_eq_iff_of_fitsCluster hm hn).mp heq⟩
    · rintro ⟨hm, hlow⟩
      have hn : (ofRegister n).FitsCluster := ⟨hlow.aff0 ▸ hm.aff0, hlow.aff1 ▸ hm.aff1⟩
      exact ⟨coreIndex_lt_coreCount_iff.mpr hm, (coreIndex_eq_iff_of_fitsCluster hm hn).mpr hlow⟩
  refine ⟨shared, ?_, ?_, ?_, ?_, ?_⟩
  · intro hlt heq
    obtain ⟨-, hlow⟩ := shared.mp ⟨hlt, heq⟩
    constructor
    · intro h
      rw [h]
      exact ⟨rfl, rfl⟩
    · rintro ⟨haff2, haff3⟩
      exact Affinity.ext hlow.aff0 hlow.aff1 haff2 haff3
  · rw [← Nat.not_lt, coreIndex_lt_coreCount_iff]
  · exact machine.handle_of_not_fitsCluster { a with core := coreIndex m } rfl
  · intro h
    exact ⟨coreIndex_of_fitsCluster h.toFitsCluster, coreIndex_lt_coreCount_iff.mpr h.toFitsCluster⟩
  · intro i hi
    exact ⟨registerOf i, coreIndex_registerOf hi⟩

/-- Bit 31 of an affinity register names no core: with it or without, the last core
is the last.  A core of a third cluster is unknown. -/
theorem cores_told_apart_by_low_affinity_last (machine : Machine) :
    let a : Arrival InterruptQueue :=
      { core := coreIndex 0x80000200, vector := ⟨.lowerAArch64, .irq⟩,
        frame := Frame.calling 0 0 {}, controller := ⟨[]⟩ }
    coreIndex 0x80000103 = 7 ∧ coreIndex 0x103 = 7 ∧
      ofRegister 0x80000103 = ofRegister 0x103 ∧
      machine.handle a = (machine, .fatal (.unknownCore 8) a.frame a.controller) := by
  intro a
  obtain ⟨-, hsame, -, -, hlast, -⟩ := cores_told_apart_by_low_affinity machine a 0x80000103 0x103
  obtain ⟨-, -, -, hunknown, -⟩ := cores_told_apart_by_low_affinity machine a 0x80000200 0
  have hindex : coreIndex 0x80000103 = 7 := (hlast ⟨⟨by decide, by decide⟩, by decide, by decide⟩).1
  have hindex' : coreIndex 0x103 = 7 := by decide
  refine ⟨hindex, hindex', ?_, ?_⟩
  · exact (hsame (by rw [hindex]; decide) (hindex.trans hindex'.symm)).mpr (by decide)
  · exact hunknown fun h => absurd h.aff1 (by decide)

/-- A core that differs from the first one in `aff2` alone is not on the board, and
it is not unknown either: it has the state of the first core, and a fatal trap on it
stops that core. -/
theorem foreign_core_shares_a_state :
    let own : UInt64 := 0x80000000
    let foreign : UInt64 := 0x80010000
    let a : Arrival InterruptQueue :=
      { core := coreIndex foreign, vector := ⟨.currentSp0, .synchronous⟩,
        frame := Frame.calling 0 0 {}, controller := ⟨[]⟩ }
    (ofRegister own).OnBoard ∧ ¬(ofRegister foreign).OnBoard ∧
      (ofRegister own).aff2 = 0 ∧ (ofRegister foreign).aff2 = 1 ∧
      coreIndex own = 0 ∧ coreIndex foreign = 0 ∧
      ((boot .el3).handle a).1.coreAt (coreIndex own) =
        .ok { Core.fresh .el3 with phase := .halted } := by
  refine ⟨⟨⟨by decide, by decide⟩, by decide, by decide⟩, ?_, by decide, by decide, by decide,
    by decide, rfl⟩
  exact fun h => absurd h.aff2 (by decide)

end Machine

end SecureMonitor
