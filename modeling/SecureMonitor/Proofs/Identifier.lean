/-
SecureMonitor/Proofs/Identifier.lean

Which words are call identifiers.  A word is the sum of its fields
(`toNat_eq_fields`), and it is decoded to an identifier if every field is
that of the identifier (`Spells`):

    31         30      29:24   23:17   16                          15:0
    call type  width   owner   zero    zero, or any in fast calls   number

So an identifier is spelled by the word that encodes it and, if the call is
fast, by the one in which the hint is set besides; there is no third
(`spells_iff`).  The hint is all that decoding loses.
-/
import Mathlib.Algebra.Group.Nat.Defs
import SecureMonitor.Call.Identifier
import SecureMonitor.Proofs.Frame

namespace SecureMonitor.CallId

variable {raw : UInt64} {id : CallId}

/-! ### Fields -/

/-- The hint of a fast call by itself. -/
def hint : UInt64 := 0x10000

/-- A word without upper and reserved bits is the sum of its other fields. -/
theorem toNat_eq_fields (hupper : field raw 32 32 = 0) (hreserved : field raw 17 7 = 0) :
    raw.toNat = field raw 31 1 * 2 ^ 31 + field raw 30 1 * 2 ^ 30 + field raw 24 6 * 2 ^ 24 +
      field raw 16 1 * 2 ^ 16 + field raw 0 16 := by
  have := raw.toNat_lt
  simp only [field] at *
  omega

theorem callTypeOf_eq_iff {t : CallType} : callTypeOf raw = t ↔ field raw 31 1 = t.index := by
  have := field_lt raw 31 1
  cases t <;> simp [callTypeOf, bit, CallType.index]
  omega

theorem widthOf_eq_iff {w : CallWidth} : widthOf raw = w ↔ field raw 30 1 = w.index := by
  have := field_lt raw 30 1
  cases w <;> simp [widthOf, bit, CallWidth.index]
  omega

theorem numberOf_eq_iff {n : UInt16} : numberOf raw = n ↔ field raw 0 16 = n.toNat := by
  have := field_lt raw 0 16
  rw [← UInt16.toNat_inj, numberOf, UInt16.toNat_ofNat', Nat.mod_eq_of_lt this]

theorem upperBitsSet_eq_false_iff : upperBitsSet raw = false ↔ field raw 32 32 = 0 := by
  simp [upperBitsSet]

theorem reservedBitsSet_eq_false_iff :
    reservedBitsSet raw = false ↔
      field raw 17 7 = 0 ∧ (callTypeOf raw = .yielding → field raw 16 1 = 0) := by
  simp [reservedBitsSet, bit_eq_false_iff]

/-! ### Spellings -/

/-- The fields of `raw` are those of `id`. -/
structure Spells (raw : UInt64) (id : CallId) : Prop where
  upper : field raw 32 32 = 0
  callType : field raw 31 1 = id.callType.index
  width : field raw 30 1 = id.width.index
  owner : field raw 24 6 = id.owner.owner
  reserved : field raw 17 7 = 0
  unhinted : id.callType = .yielding → field raw 16 1 = 0
  number : field raw 0 16 = id.number.toNat

/-- Decoding reads one field after the other and refuses what it must. -/
theorem decode_eq_ok_iff : decode raw = .ok id ↔ Spells raw id := by
  constructor
  · intro h
    unfold decode at h
    split at h
    · cases h
    · rename_i hupper
      split at h
      · cases h
      · rename_i hreserved
        split at h
        · cases h
        · rename_i owner howner
          cases h
          obtain ⟨hzero, hhint⟩ :=
            reservedBitsSet_eq_false_iff.mp (Bool.eq_false_iff.mpr hreserved)
          exact {
            upper := upperBitsSet_eq_false_iff.mp (Bool.eq_false_iff.mpr hupper)
            callType := callTypeOf_eq_iff.mp rfl
            width := widthOf_eq_iff.mp rfl
            owner := Service.ofOwner?_eq_some_iff.mp howner
            reserved := hzero
            unhinted := hhint
            number := numberOf_eq_iff.mp rfl }
  · intro h
    have htype := callTypeOf_eq_iff.mpr h.callType
    have hupper := upperBitsSet_eq_false_iff.mpr h.upper
    have hreserved : reservedBitsSet raw = false :=
      reservedBitsSet_eq_false_iff.mpr ⟨h.reserved, fun hy => h.unhinted (htype ▸ hy)⟩
    have howner : Service.ofOwner? (ownerNumber raw) = some id.owner :=
      Service.ofOwner?_eq_some_iff.mpr h.owner
    simp only [decode, hupper, hreserved, howner, htype, widthOf_eq_iff.mpr h.width,
      numberOf_eq_iff.mpr h.number]
    rfl

/-- Bit 30 makes a call one of 64 bits. -/
theorem Spells.wide_iff (h : Spells raw id) : bit raw 30 = true ↔ id.width = .smc64 := by
  rw [bit_eq_true_iff, h.width]
  cases id.width <;> decide

/-- What the fields add up to: the identifier, and its hint. -/
theorem Spells.toNat_eq (h : Spells raw id) : raw.toNat = id.code + field raw 16 1 * 2 ^ 16 := by
  have hsum := toNat_eq_fields h.upper h.reserved
  rw [h.callType, h.width, h.owner, h.number] at hsum
  rw [hsum]
  simp only [code]
  omega

/-- The fields are read back from the sum, with the hint or without it. -/
theorem spells_of_toNat_eq {b : Nat} (hb : b < 2) (hhint : id.callType = .yielding → b = 0)
    (hraw : raw.toNat = id.code + b * 2 ^ 16) : Spells raw id := by
  have htype : id.callType.index < 2 := by cases id.callType <;> decide
  have hwidth : id.width.index < 2 := by cases id.width <;> decide
  have howner := id.owner.owner_lt
  have hnumber := id.number.toNat_lt
  simp only [code] at hraw
  constructor
  · simp only [field]
    omega
  · simp only [field]
    omega
  · simp only [field]
    omega
  · simp only [field]
    omega
  · simp only [field]
    omega
  · intro hyielding
    have hzero := hhint hyielding
    simp only [field]
    omega
  · simp only [field]
    omega

/-- An identifier has one spelling, and a fast call has another one with the
hint set. -/
theorem spells_iff :
    Spells raw id ↔ raw = id.encode ∨ id.callType = .fast ∧ raw = id.encode + hint := by
  have hcode := id.code_lt
  have hhinted : (id.encode + hint).toNat = id.code + 2 ^ 16 := by
    rw [UInt64.toNat_add, toNat_encode, Nat.mod_eq_of_lt]
    · rfl
    · show id.code + 2 ^ 16 < 2 ^ 64
      omega
  rw [← UInt64.toNat_inj, ← UInt64.toNat_inj, toNat_encode, hhinted]
  constructor
  · intro h
    have hsum := h.toNat_eq
    have hbit := field_lt raw 16 1
    obtain hzero | hone : field raw 16 1 = 0 ∨ field raw 16 1 = 1 := by omega
    · left
      rw [hsum, hzero, Nat.zero_mul, Nat.add_zero]
    · right
      refine ⟨?_, ?_⟩
      · cases htype : id.callType with
        | yielding => exact nomatch hone.symm.trans (h.unhinted htype)
        | fast => rfl
      · rw [hsum, hone, Nat.one_mul]
  · rintro (hplain | ⟨hfast, hset⟩)
    · refine spells_of_toNat_eq (b := 0) (by decide) (fun _ => rfl) ?_
      rw [hplain, Nat.zero_mul, Nat.add_zero]
    · refine spells_of_toNat_eq (b := 1) (by decide) ?_ ?_
      · intro hyielding
        exact nomatch hfast.symm.trans hyielding
      · rw [hset, Nat.one_mul]

/-- Clearing the hint takes its weight off a word that is otherwise without it. -/
theorem toNat_and_not_hint {high low b : Nat} (hb : b < 2) (hlow : low < 2 ^ 16)
    (h : raw.toNat = 2 ^ 17 * high + (2 ^ 16 * b + low)) :
    (raw &&& ~~~hint).toNat = 2 ^ 17 * high + low := by
  have hmask : (~~~hint).toNat = 2 ^ 64 - (2 ^ 16 + 1) := rfl
  apply Nat.eq_of_testBit_eq
  intro i
  rw [UInt64.toNat_and, Nat.testBit_and, hmask, Nat.testBit_two_pow_sub_succ (by decide),
    Nat.testBit_two_pow]
  rcases Nat.lt_or_ge i 64 with hi | hi
  · rw [h, Nat.testBit_two_pow_mul_add high (by omega), Nat.testBit_two_pow_mul_add high (by omega),
      Nat.testBit_two_pow_mul_add b hlow]
    rcases Nat.lt_trichotomy i 16 with hlt | rfl | hgt
    · -- below the hint
      simp [hi, hlt, Nat.lt_succ_of_lt hlt, Nat.ne_of_gt hlt]
    · simp [Nat.testBit_lt_two_pow hlow]
    · -- above it
      simp [hi, Nat.ne_of_lt hgt, Nat.not_lt.mpr hgt]
  · -- beyond bit 63 there is nothing
    have hword := raw.toNat_lt
    have hout : 2 ^ 17 * high + low < 2 ^ i :=
      Nat.lt_of_lt_of_le (by omega : _ < 2 ^ 64) (Nat.pow_le_pow_right (by decide) hi)
    rw [Nat.testBit_lt_two_pow hout]
    simp [Nat.not_lt.mpr hi]

/-- The identifier is what is left of its spelling without the hint. -/
theorem Spells.encode_eq (h : Spells raw id) : id.encode = raw &&& ~~~hint := by
  have hnumber := id.number.toNat_lt
  have hbit := field_lt raw 16 1
  have hsum := h.toNat_eq
  obtain ⟨high, hcode⟩ : ∃ high, id.code = 2 ^ 17 * high + id.number.toNat := by
    refine ⟨id.callType.index * 2 ^ 14 + id.width.index * 2 ^ 13 + id.owner.owner * 2 ^ 7, ?_⟩
    simp only [code]
    omega
  rw [← UInt64.toNat_inj, toNat_encode, hcode]
  refine (toNat_and_not_hint hbit hnumber ?_).symm
  rw [hsum, hcode]
  omega

/-! ### The codec -/

/-- Encoding and decoding belong together.  A word is decoded to an
identifier if and only if the identifier encodes to it, or is that of a fast
call and encodes to it but for the hint.  So every identifier is read back
from its own code; and a word that is read gives itself when it is encoded
again, with the hint cleared. -/
theorem decode_inverts_encode (raw : UInt64) (id : CallId) :
    (decode raw = .ok id ↔ raw = id.encode ∨ id.callType = .fast ∧ raw = id.encode + 0x10000) ∧
      decode id.encode = .ok id ∧
      (decode raw = .ok id → id.encode = raw &&& ~~~0x10000) := by
  refine ⟨decode_eq_ok_iff.trans spells_iff, ?_, ?_⟩
  · exact decode_eq_ok_iff.mpr (spells_iff.mpr (.inl rfl))
  · intro h
    exact (decode_eq_ok_iff.mp h).encode_eq

/-- A fast call with the hint set is read like the one without it; a yielding
call with that bit set is no call at all. -/
theorem decode_inverts_encode_hinted :
    let id : CallId := ⟨.fast, .smc64, .tsp, 4⟩
    decode 0xf2010004 = .ok id ∧ id.encode = 0xf2000004 ∧
      decode 0x72010004 ≠ .ok ⟨.yielding, .smc64, .tsp, 4⟩ := by
  intro id
  obtain ⟨hread, -, hwrite⟩ := decode_inverts_encode 0xf2010004 id
  have hdecode : decode 0xf2010004 = .ok id := hread.mpr (.inr ⟨rfl, by decide⟩)
  refine ⟨hdecode, hwrite hdecode, ?_⟩
  intro h
  rcases (decode_inverts_encode 0x72010004 _).1.mp h with hsame | ⟨hfast, -⟩
  · revert hsame
    decide
  · cases hfast

end SecureMonitor.CallId
