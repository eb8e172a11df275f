/-
SecureMonitor/Proofs/ByteBuffers.lean

Moving bytes inside a buffer, and comparing two buffers.

A move is described by where each byte comes from, in the buffer as it was before:

    from target on, as many as are moved     the byte at the same place from start on
    anywhere else                            the byte that was there

so it makes no difference whether the two ranges overlap, and in which direction
(`Moved`).  The test before it is made in machine words, where a difference that falls
below zero wraps around.  None does, and the test accepts just what lies inside the buffer
(`fits?_words`).

A comparison is the difference of the first two bytes that differ (`DiffersAt`).  On
buffers of one length it has the sign of the lexicographic order on lists of bytes
(`compare_nonpos_iff_le`), so what is known of that order is known of it.
-/
import Mathlib.Algebra.Group.Nat.Defs
import SecureMonitor.Bytes

namespace SecureMonitor.Bytes

/-! ### The test before a move -/

/-- In machine words the test has the same answer as in natural numbers. -/
theorem fits?_words (length start stop target : UInt64) :
    fits? length start stop target =
      some (decide (InBounds length.toNat start.toNat stop.toNat target.toNat)) := by
  by_cases hrange : start ≤ stop ∧ stop ≤ length
  · obtain ⟨hordered, hsource⟩ := hrange
    have hstart : start.toNat ≤ stop.toNat := UInt64.le_iff_toNat_le.mp hordered
    have hstop : stop.toNat ≤ length.toNat := UInt64.le_iff_toNat_le.mp hsource
    -- the number of bytes does not wrap around, so it is no more than the length
    have hcount : (stop - start).toNat = stop.toNat - start.toNat :=
      UInt64.toNat_sub_of_le stop start hordered
    have hle : stop - start ≤ length := by
      rw [UInt64.le_iff_toNat_le, hcount]
      omega
    have hlast : (length - (stop - start)).toNat = length.toNat - (stop.toNat - start.toNat) := by
      rw [UInt64.toNat_sub_of_le length (stop - start) hle, hcount]
    rw [fits?_of_minus? hordered hsource (minus?_of_le hordered) (minus?_of_le hle)]
    apply congrArg some
    rw [decide_eq_decide, UInt64.le_iff_toNat_le, hlast, InBounds]
    omega
  · rw [fits?_of_not_range hrange, decide_eq_false]
    intro h
    exact hrange ⟨UInt64.le_iff_toNat_le.mpr h.1, UInt64.le_iff_toNat_le.mpr h.2.1⟩

/-! ### Where the bytes come from -/

variable {buffer moved : List UInt8} {start stop target : Nat}

/-- The bytes from `start` up to `stop` were moved to `target`, and nothing else happened. -/
structure Moved (buffer moved : List UInt8) (start stop target : Nat) : Prop where
  length_eq : moved.length = buffer.length
  copied : ∀ i, i < stop - start → moved[target + i]? = buffer[start + i]?
  kept : ∀ j, j < target ∨ target + (stop - start) ≤ j → moved[j]? = buffer[j]?

theorem moved_of_inBounds (h : InBounds buffer.length start stop target) :
    Moved buffer (buffer.take target ++ (buffer.drop start).take (stop - start) ++
      buffer.drop (target + (stop - start))) start stop target := by
  obtain ⟨hordered, hsource, hdestination⟩ := h
  have hbefore : (buffer.take target).length = target := by
    rw [List.length_take]
    omega
  have hrange : ((buffer.drop start).take (stop - start)).length = stop - start := by
    rw [List.length_take, List.length_drop]
    omega
  constructor
  · rw [List.length_append, List.length_append, hbefore, hrange, List.length_drop]
    omega
  · intro i hi
    rw [List.append_assoc, List.getElem?_append_right (by omega), hbefore,
      Nat.add_sub_cancel_left, List.getElem?_append_left (by omega),
      List.getElem?_take_of_lt hi, List.getElem?_drop]
  · rintro j (hleft | hright)
    · rw [List.append_assoc, List.getElem?_append_left (by omega), List.getElem?_take_of_lt hleft]
    · have hsum : target + (stop - start) + (j - (target + (stop - start))) = j := by omega
      rw [List.getElem?_append_right (by rw [List.length_append]; omega), List.length_append,
        hbefore, hrange, List.getElem?_drop, hsum]

/-- A move inside a buffer, for all positions.  It succeeds if and only if both the range
and its destination lie in the buffer; then each byte of the destination is the one that
was at its place in the range, and all others are as before.  Otherwise it is refused and
the buffer stays as it was.  The test for this, which makes no sums, can also be made in
machine words, for a buffer whose length is one: it always has an answer, as no difference
falls below zero, and the answer is the right one. -/
theorem moving_is_overlap_safe (buffer : List UInt8) (start stop target : Nat) :
    (InBounds buffer.length start stop target →
      moveWithin buffer start stop target = .ok (afterMove buffer start stop target) ∧
        Moved buffer (afterMove buffer start stop target) start stop target) ∧
    (¬InBounds buffer.length start stop target →
      moveWithin buffer start stop target = .error .outOfBounds ∧
        afterMove buffer start stop target = buffer) ∧
    (∀ length : UInt64, length.toNat = buffer.length → ∀ start stop target : UInt64,
      fits? length start stop target =
        some (moveWithin buffer start.toNat stop.toNat target.toNat).isOk) := by
  refine ⟨?_, ?_, ?_⟩
  · intro h
    rw [afterMove, moveWithin_of_inBounds h]
    exact ⟨rfl, moved_of_inBounds h⟩
  · intro h
    rw [afterMove, moveWithin_of_not_inBounds h]
    exact ⟨rfl, rfl⟩
  · intro length hlength start stop target
    rw [fits?_words, hlength]
    by_cases h : InBounds buffer.length start.toNat stop.toNat target.toNat
    · rw [moveWithin_of_inBounds h, decide_eq_true h]
      rfl
    · rw [moveWithin_of_not_inBounds h, decide_eq_false h]
      rfl

/-- Four bytes moved two places up, over the last two of themselves; and an empty range, for
which the largest word is no place to go. -/
theorem moving_is_overlap_safe_upwards :
    InBounds 6 0 4 2 ∧
      Moved [1, 2, 3, 4, 5, 6] (afterMove [1, 2, 3, 4, 5, 6] 0 4 2) 0 4 2 ∧
      afterMove [1, 2, 3, 4, 5, 6] 0 4 2 = [1, 2, 1, 2, 3, 4] ∧
    ¬InBounds 6 6 6 (2 ^ 64 - 1) ∧
      afterMove [1, 2, 3, 4, 5, 6] 6 6 (2 ^ 64 - 1) = [1, 2, 3, 4, 5, 6] ∧
      fits? (6 : UInt64) 6 6 0xffffffffffffffff = some false := by
  have hsafe := moving_is_overlap_safe [1, 2, 3, 4, 5, 6]
  refine ⟨by decide, ((hsafe 0 4 2).1 (by decide)).2, by decide, by decide, ?_, ?_⟩
  · exact ((hsafe 6 6 (2 ^ 64 - 1)).2.1 (by decide)).2
  · exact (hsafe 6 6 0).2.2 6 rfl 6 6 0xffffffffffffffff

/-! ### The first difference -/

variable {a b : List UInt8} {n : Nat} {x y : UInt8}

/-- The sides agree as far as both reach. -/
def Agree (a b : List UInt8) : Prop := ∀ i, i < min a.length b.length → a[i]? = b[i]?

/-- The sides agree before position `n`, and have `x` and `y` there, which differ. -/
structure DiffersAt (a b : List UInt8) (n : Nat) (x y : UInt8) : Prop where
  before : ∀ i, i < n → a[i]? = b[i]?
  left : a[n]? = some x
  right : b[n]? = some y
  ne : x ≠ y

theorem agree_nil_left (b : List UInt8) : Agree [] b := by
  intro i hi
  rw [List.length_nil, Nat.zero_min] at hi
  exact absurd hi (Nat.not_lt_zero i)

theorem agree_nil_right (a : List UInt8) : Agree a [] := by
  intro i hi
  rw [List.length_nil, Nat.min_zero] at hi
  exact absurd hi (Nat.not_lt_zero i)

/-- The same byte in front makes no difference. -/
theorem agree_cons_iff : Agree (x :: a) (x :: b) ↔ Agree a b := by
  constructor
  · intro h i hi
    have hnext := h (i + 1) (by simp only [List.length_cons]; omega)
    rwa [List.getElem?_cons_succ, List.getElem?_cons_succ] at hnext
  · intro h i hi
    cases i with
    | zero => rfl
    | succ i =>
      rw [List.getElem?_cons_succ, List.getElem?_cons_succ]
      exact h i (by simp only [List.length_cons] at hi; omega)

theorem DiffersAt.cons (h : DiffersAt a b n x y) (z : UInt8) :
    DiffersAt (z :: a) (z :: b) (n + 1) x y where
  before i hi := by
    cases i with
    | zero => rfl
    | succ i => exact h.before i (by omega)
  left := h.left
  right := h.right
  ne := h.ne

theorem differsAt_cons_of_ne (h : x ≠ y) (a b : List UInt8) :
    DiffersAt (x :: a) (y :: b) 0 x y where
  before i hi := absurd hi (Nat.not_lt_zero i)
  left := rfl
  right := rfl
  ne := h

theorem DiffersAt.not_agree (h : DiffersAt a b n x y) : ¬Agree a b := by
  intro hagree
  have hleft := (List.getElem?_eq_some_iff.mp h.left).1
  have hright := (List.getElem?_eq_some_iff.mp h.right).1
  have hsame := hagree n (by omega)
  rw [h.left, h.right] at hsame
  exact h.ne (Option.some.inj hsame)

/-! ### The value of a comparison -/

@[simp] theorem compare_nil_left (b : List UInt8) : compare [] b = 0 := rfl

@[simp] theorem compare_nil_right (a : List UInt8) : compare a [] = 0 := by
  cases a <;> rfl

theorem compare_cons_self (x : UInt8) (a b : List UInt8) :
    compare (x :: a) (x :: b) = compare a b := if_pos rfl

theorem compare_cons_of_ne (h : x ≠ y) (a b : List UInt8) :
    compare (x :: a) (y :: b) = (x.toNat : Int) - y.toNat := if_neg h

/-- Either there is no difference, or the first one makes the value. -/
theorem agree_or_differsAt (a b : List UInt8) :
    Agree a b ∧ compare a b = 0 ∨
      ∃ n x y, DiffersAt a b n x y ∧ compare a b = (x.toNat : Int) - y.toNat := by
  induction a generalizing b with
  | nil => exact .inl ⟨agree_nil_left b, rfl⟩
  | cons x a ih =>
    cases b with
    | nil => exact .inl ⟨agree_nil_right _, rfl⟩
    | cons y b =>
      by_cases hxy : x = y
      · subst hxy
        rw [compare_cons_self, agree_cons_iff]
        rcases ih b with hsame | ⟨n, u, v, hdiffers, hvalue⟩
        · exact .inl hsame
        · exact .inr ⟨n + 1, u, v, hdiffers.cons x, hvalue⟩
      · exact .inr ⟨0, x, y, differsAt_cons_of_ne hxy a b, compare_cons_of_ne hxy a b⟩

/-- The difference of two bytes has their order as its sign. -/
theorem difference_neg_iff (x y : UInt8) : (x.toNat : Int) - y.toNat < 0 ↔ x < y := by
  rw [UInt8.lt_iff_toNat_lt]
  omega

theorem difference_eq_zero_iff (x y : UInt8) : (x.toNat : Int) - y.toNat = 0 ↔ x = y := by
  rw [← UInt8.toNat_inj]
  omega

theorem compare_eq_zero_iff (a b : List UInt8) : compare a b = 0 ↔ Agree a b := by
  rcases agree_or_differsAt a b with ⟨hagree, hvalue⟩ | ⟨n, x, y, hdiffers, hvalue⟩
  · exact iff_of_true hvalue hagree
  · rw [hvalue, difference_eq_zero_iff]
    exact iff_of_false hdiffers.ne hdiffers.not_agree

theorem compare_swap (a b : List UInt8) : compare a b = -compare b a := by
  induction a generalizing b with
  | nil => rw [compare_nil_left, compare_nil_right, Int.neg_zero]
  | cons x a ih =>
    cases b with
    | nil => rfl
    | cons y b =>
      by_cases hxy : x = y
      · subst hxy
        rw [compare_cons_self, compare_cons_self]
        exact ih b
      · rw [compare_cons_of_ne hxy, compare_cons_of_ne (Ne.symm hxy), Int.neg_sub]

theorem compare_bounds (a b : List UInt8) : -255 ≤ compare a b ∧ compare a b ≤ 255 := by
  rcases agree_or_differsAt a b with ⟨-, hvalue⟩ | ⟨n, x, y, -, hvalue⟩
  · omega
  · have hx := x.toNat_lt
    have hy := y.toNat_lt
    omega

/-! ### The order on buffers of one length -/

/-- The sign of a comparison is the lexicographic order. -/
theorem compare_nonpos_iff_le (h : a.length = b.length) : compare a b ≤ 0 ↔ a ≤ b := by
  induction a generalizing b with
  | nil => exact iff_of_true (Int.le_refl 0) (List.nil_le b)
  | cons x a ih =>
    cases b with
    | nil => cases h
    | cons y b =>
      rw [List.cons_le_cons_iff]
      by_cases hxy : x = y
      · subst hxy
        have hirrefl : ¬x < x := by
          rw [UInt8.lt_iff_toNat_lt]
          exact Nat.lt_irrefl _
        rw [compare_cons_self, ih (Nat.succ.inj h)]
        simp only [hirrefl, true_and, false_or]
      · -- the difference of two bytes that differ is not zero
        have hne := mt (difference_eq_zero_iff x y).mp hxy
        have hiff : (x.toNat : Int) - y.toNat ≤ 0 ↔ x < y := by
          rw [← difference_neg_iff]
          omega
        rw [compare_cons_of_ne hxy, hiff]
        simp only [hxy, false_and, or_false]

theorem compare_eq_zero_iff_eq (h : a.length = b.length) : compare a b = 0 ↔ a = b := by
  constructor
  · intro hzero
    have hle : a ≤ b := (compare_nonpos_iff_le h).mp (by omega)
    have hge : b ≤ a := (compare_nonpos_iff_le h.symm).mp (by rw [compare_swap]; omega)
    exact List.le_antisymm hle hge
  · rintro rfl
    exact compare_self a

/-- Comparing is lexicographic.  Changing sides changes the sign; the value is zero if and
only if the sides agree as far as both reach, and otherwise it is the difference of the
first two bytes that differ, negative if the left one is the smaller, and always between
-255 and 255.  On buffers of one length this is a total order, the lexicographic one: only
the same bytes are equal in it, any two buffers are comparable, and it is transitive. -/
theorem comparing_is_lexicographic (a b c : List UInt8) :
    compare a b = -compare b a ∧
    (compare a b = 0 ↔ Agree a b) ∧
    (¬Agree a b → ∃ n x y, DiffersAt a b n x y ∧ compare a b = (x.toNat : Int) - y.toNat ∧
      (compare a b < 0 ↔ x < y)) ∧
    -255 ≤ compare a b ∧ compare a b ≤ 255 ∧
    (a.length = b.length →
      (compare a b = 0 ↔ a = b) ∧ (compare a b ≤ 0 ↔ a ≤ b) ∧
        (compare a b ≤ 0 ∨ compare b a ≤ 0) ∧
        (b.length = c.length → compare a b ≤ 0 → compare b c ≤ 0 → compare a c ≤ 0)) := by
  obtain ⟨hlow, hhigh⟩ := compare_bounds a b
  refine ⟨compare_swap a b, compare_eq_zero_iff a b, ?_, hlow, hhigh, ?_⟩
  · intro hdisagree
    rcases agree_or_differsAt a b with ⟨hagree, -⟩ | ⟨n, x, y, hdiffers, hvalue⟩
    · exact absurd hagree hdisagree
    · refine ⟨n, x, y, hdiffers, hvalue, ?_⟩
      rw [hvalue]
      exact difference_neg_iff x y
  · intro hab
    refine ⟨compare_eq_zero_iff_eq hab, compare_nonpos_iff_le hab, ?_, ?_⟩
    · have hswap := compare_swap a b
      omega
    · intro hbc hle hle'
      rw [compare_nonpos_iff_le hab] at hle
      rw [compare_nonpos_iff_le hbc] at hle'
      rw [compare_nonpos_iff_le (hab.trans hbc)]
      exact List.le_trans hle hle'

/-- Three buffers whose first differences are at different places. -/
theorem comparing_is_lexicographic_three :
    compare [1, 2, 3] [1, 2, 200] ≤ 0 ∧ compare [1, 2, 200] [1, 255, 0] ≤ 0 ∧
      compare [1, 2, 3] [1, 255, 0] ≤ 0 := by
  have hfirst : compare [1, 2, 3] [1, 2, 200] ≤ 0 := by decide
  have hsecond : compare [1, 2, 200] [1, 255, 0] ≤ 0 := by decide
  have horder := (comparing_is_lexicographic [1, 2, 3] [1, 2, 200] [1, 255, 0]).2.2.2.2.2 rfl
  exact ⟨hfirst, hsecond, horder.2.2.2 rfl hfirst hsecond⟩

end SecureMonitor.Bytes
