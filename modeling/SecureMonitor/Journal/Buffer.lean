/-
SecureMonitor/Journal/Buffer.lean

The buffer that holds the journal while there is no serial line yet: 8192
bytes of memory, and the position up to which they are text.

A record comes in pieces, and each is written as it comes, when nobody knows
yet whether the rest will find room.  A record is whole or not there at all,
though.  When a piece finds no room, the position goes back to where the
record began, and the record is counted as dropped.  What was written of it
stays in memory until other text is put over it.  A shorter record may still
fit after that.
-/
namespace SecureMonitor

namespace LogBuffer

/-- Bytes that a buffer has room for. -/
def capacity : Nat := 8192

/-- Memory that nothing was written to yet. -/
def blank : ByteArray := ⟨Array.replicate capacity 0⟩

theorem size_blank : blank.size = capacity := Array.size_replicate

/-- The memory with a piece of text at the position. -/
def overwrite (memory : ByteArray) (position : Nat) (text : String) : ByteArray :=
  text.toUTF8.copySlice 0 memory position text.utf8ByteSize

theorem overwrite_eq (memory : ByteArray) (position : Nat) (text : String) :
    overwrite memory position text =
      memory.extract 0 position ++ text.toByteArray ++
        memory.extract (position + text.utf8ByteSize) memory.size := by
  have hwhole : text.toByteArray.extract 0 text.utf8ByteSize = text.toByteArray := by
    rw [← String.size_toByteArray, ByteArray.extract_zero_size]
  have hsize : text.toByteArray.data.size = text.utf8ByteSize := String.size_toByteArray
  rw [overwrite, String.toUTF8_eq_toByteArray, ByteArray.copySlice_eq_append, Nat.zero_add,
    hwhole, hsize, Nat.sub_zero, Nat.min_self]
  rfl

/-- Text that fits does not change the size of the memory. -/
theorem size_overwrite {memory : ByteArray} {position : Nat} {text : String}
    (h : text.utf8ByteSize ≤ memory.size - position) :
    (overwrite memory position text).size = memory.size := by
  rw [overwrite_eq, ByteArray.size_append, ByteArray.size_append, ByteArray.size_extract,
    ByteArray.size_extract, String.size_toByteArray]
  omega

/-- Up to the end of the new text nothing else has changed. -/
theorem extract_overwrite {memory : ByteArray} {position : Nat} (h : position ≤ memory.size)
    (text : String) :
    (overwrite memory position text).extract 0 (position + text.utf8ByteSize) =
      memory.extract 0 position ++ text.toByteArray := by
  rw [overwrite_eq]
  apply ByteArray.extract_append_eq_left
  rw [ByteArray.size_append, ByteArray.size_extract, String.size_toByteArray]
  omega

end LogBuffer

/-- Text that waits for the serial line, and the records lost so far. -/
structure LogBuffer where
  memory : ByteArray := LogBuffer.blank
  /-- What lies before it is text; what lies behind it means nothing. -/
  position : Nat := 0
  /-- Records lost, counted in a machine word. -/
  losses : UInt64 := 0
  size_memory : memory.size = LogBuffer.capacity := by exact LogBuffer.size_blank

namespace LogBuffer

/-- The number of records lost, as the counter has it: after `2 ^ 64` of them it is zero
again. -/
def dropped (b : LogBuffer) : Nat := b.losses.toNat

/-- Bytes that there is still room for. -/
def remaining (b : LogBuffer) : Nat := capacity - b.position

/-! ### Writing -/

/-- Write a piece of text if there is room for all of it. -/
def write? (b : LogBuffer) (text : String) : Option LogBuffer :=
  if h : text.utf8ByteSize ≤ b.remaining then
    some { b with
      memory := overwrite b.memory b.position text
      position := b.position + text.utf8ByteSize
      size_memory := by rw [size_overwrite (by rwa [b.size_memory]), b.size_memory] }
  else none

/-- Write pieces of text up to the first that finds no room, and tell whether there was
none. -/
def writeAll (b : LogBuffer) : List String → LogBuffer × Bool
  | [] => (b, true)
  | piece :: pieces =>
    match b.write? piece with
    | some written => written.writeAll pieces
    | none => (b, false)

/-- The buffer with the text up to the position. -/
def rewind (b : LogBuffer) (position : Nat) : LogBuffer := { b with position := position }

/-- Write the pieces of one record, or take them back and count it as dropped. -/
def record (b : LogBuffer) (pieces : List String) : LogBuffer :=
  match b.writeAll pieces with
  | (written, true) => written
  | (written, false) => { written.rewind b.position with losses := written.losses + 1 }

def clear (b : LogBuffer) : LogBuffer := { b.rewind 0 with losses := 0 }

/-! ### Reading -/

/-- The bytes up to the position. -/
def data (b : LogBuffer) : ByteArray := b.memory.extract 0 b.position

/-- The text in the buffer, if it is text. -/
def text? (b : LogBuffer) : Option String := String.fromUTF8? b.data

def contents (b : LogBuffer) : String := b.text?.getD "<invalid UTF-8>"

end LogBuffer

end SecureMonitor
