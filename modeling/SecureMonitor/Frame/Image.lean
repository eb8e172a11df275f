/-
SecureMonitor/Frame/Image.lean

The byte image of a frame as the entry code lays it out: 38 words, lowest
byte first — four status words, x0 to x30, two stack pointers, and a last
word that is reserved.  The reserved word is written as zero and ignored
when it is read.  Only an image of exactly 304 bytes is read.

Both ways a word goes through eight bytes that are copied (`Bytes.copy`).
They are eight on both sides, so that a copy is complete (`toBytes_eq`,
`wordAt_eq`).
-/
import SecureMonitor.Bytes
import SecureMonitor.Frame
import SecureMonitor.LittleEndian

namespace SecureMonitor.Frame

/-! ### Layout -/

def elrOffset : Nat := 0
def spsrOffset : Nat := 8
def scrOffset : Nat := 16
def esrOffset : Nat := 24
def regsOffset : Nat := 32
def spLowerOffset : Nat := 280
def spEl1Offset : Nat := 288

/-- Bytes of an image. -/
def imageSize : Nat := 304

/-! ### Writing and reading -/

/-- The words of the image in order. -/
def words (f : Frame) : List UInt64 :=
  [f.elr, f.spsr, f.scr, f.esr] ++ f.regs.toList ++ [f.spLower, f.spEl1, 0]

/-- Room for one word. -/
def blankWord : List UInt8 := List.replicate 8 0

/-- The blank image with the words copied into it, each into its own eight bytes. -/
def toBytes (f : Frame) : List UInt8 :=
  f.words.flatMap fun w => (Bytes.copy blankWord (LittleEndian.write w)).2

/-- The word that an image holds at a byte offset.  It is read from a copy of its bytes. -/
def wordAt (image : List UInt8) (offset : Nat) : UInt64 :=
  LittleEndian.read (Bytes.copy blankWord ((image.drop offset).take 8)).2

def ofBytes? (image : List UInt8) : Option Frame :=
  if image.length = imageSize then
    some
      { elr := wordAt image elrOffset
        spsr := wordAt image spsrOffset
        scr := wordAt image scrOffset
        esr := wordAt image esrOffset
        regs := Vector.ofFn fun i => wordAt image (regsOffset + 8 * i)
        spLower := wordAt image spLowerOffset
        spEl1 := wordAt image spEl1Offset }
  else none

theorem length_words (f : Frame) : f.words.length = 38 := by simp [words]

/-- Copied into a blank image, the words are just written one behind the other. -/
theorem toBytes_eq (f : Frame) : f.toBytes = f.words.flatMap LittleEndian.write := by
  refine congrArg (List.flatMap · f.words) (funext fun w => ?_)
  rw [Bytes.copy_of_length_eq (LittleEndian.length_write w)]

/-- Where an image has room for a word, the copy is of its own bytes. -/
theorem wordAt_eq {image : List UInt8} {offset : Nat} (h : offset + 8 ≤ image.length) :
    wordAt image offset = LittleEndian.read ((image.drop offset).take 8) := by
  have hlength : ((image.drop offset).take 8).length = blankWord.length := by
    rw [List.length_take, List.length_drop, blankWord, List.length_replicate]
    omega
  rw [wordAt, Bytes.copy_of_length_eq hlength]

theorem isSome_ofBytes? (image : List UInt8) :
    (ofBytes? image).isSome = true ↔ image.length = imageSize := by
  unfold ofBytes?
  split <;> simp_all

end SecureMonitor.Frame
