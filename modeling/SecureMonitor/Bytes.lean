/-
SecureMonitor/Bytes.lean

Operations on a buffer of bytes.  `copy` and `compare` look at as many
bytes as both sides have.  `moveWithin` moves a range inside one buffer as
if through a copy of it, so that source and destination may overlap; it is
refused unless both ranges lie in the buffer.
-/
namespace SecureMonitor.Bytes

/-! ### Copying and filling -/

/-- Put `source` at the start of `buffer`, as far as both reach.  The number
of bytes copied comes with the buffer. -/
def copy (buffer source : List UInt8) : Nat × List UInt8 :=
  let count := min buffer.length source.length
  (count, source.take count ++ buffer.drop count)

/-- Every byte replaced by `value`. -/
def fill (buffer : List UInt8) (value : UInt8) : List UInt8 :=
  List.replicate buffer.length value

/-- A source as long as the buffer takes its place. -/
theorem copy_of_length_eq {buffer source : List UInt8} (h : source.length = buffer.length) :
    copy buffer source = (source.length, source) := by
  have hcount : min buffer.length source.length = source.length := by
    rw [h, Nat.min_self]
  rw [copy, hcount, List.take_length, h, List.drop_length, List.append_nil]

/-! ### Comparing -/

/-- The difference of the first two bytes that differ, zero if none do
before one side ends. -/
def compare : List UInt8 → List UInt8 → Int
  | a :: as, b :: bs => if a = b then compare as bs else (a.toNat : Int) - b.toNat
  | [], _ => 0
  | _, [] => 0

@[simp] theorem compare_self (a : List UInt8) : compare a a = 0 := by
  induction a with
  | nil => rfl
  | cons b bs ih => simp [compare, ih]

/-! ### Whether a range can be moved -/

section

variable {α : Type} [LE α] [DecidableLE α] [Sub α]

/-- The difference of two numbers, if it does not fall below zero. -/
def minus? (a b : α) : Option α := if b ≤ a then some (a - b) else none

/-- The test before a move: the bytes from `start` up to `stop` are in a buffer of this
length, and from `target` on there is room for them.  It is the same for natural numbers
and for machine words.  There would be no answer if a difference fell below zero. -/
def fits? (length start stop target : α) : Option Bool :=
  if start ≤ stop ∧ stop ≤ length then do
    let count ← minus? stop start
    let last ← minus? length count
    return decide (target ≤ last)
  else some false

variable {length start stop target count last : α}

theorem minus?_of_le {a b : α} (h : b ≤ a) : minus? a b = some (a - b) := if_pos h

/-- The test comes to its last comparison when the differences before it exist. -/
theorem fits?_of_minus? (hordered : start ≤ stop) (hsource : stop ≤ length)
    (hcount : minus? stop start = some count) (hlast : minus? length count = some last) :
    fits? length start stop target = some (decide (target ≤ last)) := by
  rw [fits?, if_pos ⟨hordered, hsource⟩, hcount, Option.bind_eq_bind, Option.bind_some, hlast]
  rfl

theorem fits?_of_not_range (h : ¬(start ≤ stop ∧ stop ≤ length)) :
    fits? length start stop target = some false := if_neg h

end

/-- The range lies in a buffer of this length, and so does the range that it goes to. -/
def InBounds (length start stop target : Nat) : Prop :=
  start ≤ stop ∧ stop ≤ length ∧ target + (stop - start) ≤ length

instance (length start stop target : Nat) : Decidable (InBounds length start stop target) :=
  inferInstanceAs (Decidable (_ ∧ _ ∧ _))

/-- In natural numbers the test has an answer and it is right. -/
theorem fits?_eq (length start stop target : Nat) :
    fits? length start stop target = some (decide (InBounds length start stop target)) := by
  by_cases hrange : start ≤ stop ∧ stop ≤ length
  · obtain ⟨hordered, hsource⟩ := hrange
    have hcount := minus?_of_le hordered
    have hlast : minus? length (stop - start) = some (length - (stop - start)) :=
      minus?_of_le (by omega)
    rw [fits?_of_minus? hordered hsource hcount hlast]
    apply congrArg some
    rw [decide_eq_decide, InBounds]
    omega
  · rw [fits?_of_not_range hrange, decide_eq_false]
    intro h
    exact hrange ⟨h.1, h.2.1⟩

/-! ### Moving -/

/-- A range reached outside the buffer. -/
inductive MoveError
  | outOfBounds
deriving DecidableEq, Repr

/-- Move the bytes from `start` up to `stop` to position `target`. -/
def moveWithin (buffer : List UInt8) (start stop target : Nat) :
    Except MoveError (List UInt8) :=
  if fits? buffer.length start stop target = some true then
    .ok (buffer.take target ++ (buffer.drop start).take (stop - start) ++
      buffer.drop (target + (stop - start)))
  else .error .outOfBounds

/-- What a buffer holds after a move was tried in it. -/
def afterMove (buffer : List UInt8) (start stop target : Nat) : List UInt8 :=
  match moveWithin buffer start stop target with
  | .ok moved => moved
  | .error _ => buffer

theorem moveWithin_of_inBounds {buffer : List UInt8} {start stop target : Nat}
    (h : InBounds buffer.length start stop target) :
    moveWithin buffer start stop target =
      .ok (buffer.take target ++ (buffer.drop start).take (stop - start) ++
        buffer.drop (target + (stop - start))) := by
  rw [moveWithin, fits?_eq, decide_eq_true h, if_pos rfl]

theorem moveWithin_of_not_inBounds {buffer : List UInt8} {start stop target : Nat}
    (h : ¬InBounds buffer.length start stop target) :
    moveWithin buffer start stop target = .error .outOfBounds := by
  rw [moveWithin, fits?_eq, decide_eq_false h, if_neg (by decide)]

end SecureMonitor.Bytes
