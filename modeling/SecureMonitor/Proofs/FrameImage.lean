/-
SecureMonitor/Proofs/FrameImage.lean

What is where in the byte image of a frame.

    0    8     16   24   32 ... 272  280      288    296
    elr  spsr  scr  esr  x0 ... x30  spLower  spEl1  zeros up to 304

The last word belongs to the image and not to the frame.  Writing and reading follow
this layout one by one, so that they might agree with each other and not with the
layout.  It is therefore stated by itself, byte by byte (`HoldsWord`, `LaidOut`), and
both are held against it:

* one image is laid out as a given frame, and it is the one that is written
  (`laidOut_iff`);
* an image of the right length is read as the frame that it holds
  (`ofBytes?_eq_some_iff`);
* and with zeros in its last word it is laid out as that frame
  (`HeldBy.laidOut_blank`).
-/
import Mathlib.Algebra.Group.Nat.Defs
import SecureMonitor.Frame.Image
import SecureMonitor.Proofs.Frame

namespace SecureMonitor

/-! ### Words among bytes -/

namespace LittleEndian

/-- The image holds the word at the offset, lowest byte first. -/
def HoldsWord (image : List UInt8) (offset : Nat) (w : UInt64) : Prop :=
  ∀ k, k < 8 → image[offset + k]? = some (UInt8.ofNat (w.toNat / 256 ^ k))

variable {image : List UInt8} {offset k : Nat} {w : UInt64}

/-- What is read at an offset is what is held there. -/
theorem HoldsWord.wordAt_eq (h : HoldsWord image offset w) : Frame.wordAt image offset = w := by
  have hbytes : (image.drop offset).take 8 = write w := by
    apply List.ext_getElem?
    intro k
    rcases Nat.lt_or_ge k 8 with hk | hk
    · rw [List.getElem?_take_of_lt hk, List.getElem?_drop, h k hk, getElem?_write w hk]
    · rw [List.getElem?_eq_none (by simp; omega), List.getElem?_eq_none (by simpa using hk)]
  have hroom : offset + 8 ≤ image.length := by
    have hlast := (List.getElem?_eq_some_iff.mp (h 7 (by decide))).1
    omega
  rw [Frame.wordAt_eq hroom, hbytes, read_write]

/-- An image holds a word wherever there is room for one. -/
theorem holdsWord_wordAt (h : offset + 8 ≤ image.length) :
    HoldsWord image offset (Frame.wordAt image offset) := by
  intro k hk
  have hlength : ((image.drop offset).take 8).length = 8 := by
    rw [List.length_take, List.length_drop]
    omega
  have hsmall : number ((image.drop offset).take 8) < 2 ^ 64 := by
    have hlt := number_lt ((image.drop offset).take 8)
    rw [hlength] at hlt
    exact hlt
  have hbyte : image[offset + k]? = some (image[offset + k]) := List.getElem?_eq_getElem (by omega)
  have hsame : ((image.drop offset).take 8)[k]? = some (image[offset + k]) := by
    rw [List.getElem?_take_of_lt hk, List.getElem?_drop, hbyte]
  rw [hbyte, Frame.wordAt_eq h, read, UInt64.toNat_ofNat', Nat.mod_eq_of_lt hsmall, byte_number hsame]

/-- Byte after byte of words that are written one behind the other. -/
theorem getElem?_flatMap_write (ws : List UInt64) (j : Nat) (hk : k < 8) :
    (ws.flatMap write)[8 * j + k]? = ws[j]?.map fun w => UInt8.ofNat (w.toNat / 256 ^ k) := by
  induction ws generalizing j with
  | nil => rfl
  | cons w ws ih =>
    rw [List.flatMap_cons]
    cases j with
    | zero =>
      rw [List.getElem?_append_left (by rw [length_write]; omega), Nat.mul_zero, Nat.zero_add]
      exact getElem?_write w hk
    | succ j =>
      have hrest : 8 * (j + 1) + k - (write w).length = 8 * j + k := by
        rw [length_write]
        omega
      rw [List.getElem?_append_right (by rw [length_write]; omega), hrest]
      exact ih j

/-- The image holds the words one behind the other, and nothing else. -/
structure HoldsWords (image : List UInt8) (ws : List UInt64) : Prop where
  length : image.length = 8 * ws.length
  words : ∀ j w, ws[j]? = some w → HoldsWord image (8 * j) w

/-- Only one image does. -/
theorem holdsWords_iff {ws : List UInt64} : HoldsWords image ws ↔ image = ws.flatMap write := by
  constructor
  · intro h
    apply List.ext_getElem?
    intro m
    -- byte m is byte m % 8 of word m / 8
    have hk : m % 8 < 8 := Nat.mod_lt _ (by decide)
    have hm : 8 * (m / 8) + m % 8 = m := Nat.div_add_mod m 8
    rw [← hm, getElem?_flatMap_write ws (m / 8) hk]
    cases hw : ws[m / 8]? with
    | some w => exact h.words (m / 8) w hw (m % 8) hk
    | none =>
      have hlength := h.length
      have hout := List.getElem?_eq_none_iff.mp hw
      exact List.getElem?_eq_none (by omega)
  · rintro rfl
    constructor
    · induction ws with
      | nil => rfl
      | cons w ws ih =>
        rw [List.flatMap_cons, List.length_append, length_write, ih, List.length_cons]
        omega
    · intro j w hw k hk
      rw [getElem?_flatMap_write ws j hk, hw]
      rfl

end LittleEndian

open LittleEndian

/-! ### The layout -/

namespace Frame

/-- The image holds what makes up the frame: four status words, the registers x0 to x30,
and the stack pointers of EL0 and EL1. -/
structure HeldBy (f : Frame) (image : List UInt8) : Prop where
  elr : HoldsWord image 0 f.elr
  spsr : HoldsWord image 8 f.spsr
  scr : HoldsWord image 16 f.scr
  esr : HoldsWord image 24 f.esr
  regs : ∀ i, i < 31 → HoldsWord image (32 + 8 * i) (f.arg i)
  spLower : HoldsWord image 280 f.spLower
  spEl1 : HoldsWord image 288 f.spEl1

/-- The image is laid out as the frame: it holds the frame, and then a word of zeros and
nothing more. -/
structure LaidOut (f : Frame) (image : List UInt8) : Prop extends f.HeldBy image where
  length : image.length = 304
  reserved : HoldsWord image 296 0

variable {f g : Frame} {image : List UInt8}

/-! ### Writing -/

/-- The words behind the status words. -/
theorem getElem?_words (f : Frame) (i : Nat) :
    f.words[4 + i]? = (f.regs.toList ++ [f.spLower, f.spEl1, 0])[i]? := by
  rw [Nat.add_comm]
  rfl

theorem getElem?_words_arg (f : Frame) {i : Nat} (h : i < 31) :
    f.words[4 + i]? = some (f.arg i) := by
  rw [getElem?_words, List.getElem?_append_left (by simpa using h), arg_eq_getElem f h]
  simp [h]

theorem getElem?_words_rest (f : Frame) (i : Nat) :
    f.words[35 + i]? = [f.spLower, f.spEl1, 0][i]? := by
  have hlength : f.regs.toList.length = 31 := Vector.length_toList
  have hbehind : 35 + i = 4 + (31 + i) := by omega
  rw [hbehind, getElem?_words, List.getElem?_append_right (by omega), hlength,
    Nat.add_sub_cancel_left]

/-- The image that is written is the one that is laid out as the frame. -/
theorem laidOut_iff : f.LaidOut image ↔ image = f.toBytes := by
  rw [f.toBytes_eq, ← holdsWords_iff]
  constructor
  · intro h
    refine ⟨h.length.trans (congrArg (8 * ·) f.length_words).symm, ?_⟩
    intro j w hw
    have hj : j < 38 := by
      rw [← f.length_words]
      exact (List.getElem?_eq_some_iff.mp hw).1
    -- word j is a status word, a register or one of the rest
    rcases Nat.lt_or_ge j 4 with hstatus | hstatus
    · obtain rfl | rfl | rfl | rfl : j = 0 ∨ j = 1 ∨ j = 2 ∨ j = 3 := by omega
      · cases hw
        exact h.elr
      · cases hw
        exact h.spsr
      · cases hw
        exact h.scr
      · cases hw
        exact h.esr
    · rcases Nat.lt_or_ge j 35 with hreg | hreg
      · obtain ⟨i, rfl⟩ := Nat.exists_eq_add_of_le hstatus
        have hi : i < 31 := by omega
        cases (f.getElem?_words_arg hi).symm.trans hw
        rw [Nat.mul_add]
        exact h.regs i hi
      · obtain ⟨i, rfl⟩ := Nat.exists_eq_add_of_le hreg
        rw [getElem?_words_rest] at hw
        obtain rfl | rfl | rfl : i = 0 ∨ i = 1 ∨ i = 2 := by omega
        · cases hw
          exact h.spLower
        · cases hw
          exact h.spEl1
        · cases hw
          exact h.reserved
  · intro h
    refine ⟨⟨?_, ?_, ?_, ?_, ?_, ?_, ?_⟩, ?_, ?_⟩
    · exact h.words 0 f.elr rfl
    · exact h.words 1 f.spsr rfl
    · exact h.words 2 f.scr rfl
    · exact h.words 3 f.esr rfl
    · intro i hi
      have hreg := h.words (4 + i) (f.arg i) (f.getElem?_words_arg hi)
      rw [Nat.mul_add] at hreg
      exact hreg
    · exact h.words 35 f.spLower (f.getElem?_words_rest 0)
    · exact h.words 36 f.spEl1 (f.getElem?_words_rest 1)
    · exact h.length.trans (congrArg (8 * ·) f.length_words)
    · exact h.words 37 0 (f.getElem?_words_rest 2)

/-! ### Reading -/

/-- The frame that is read from an image of the right length is the one that it holds. -/
theorem ofBytes?_eq_some_iff :
    ofBytes? image = some f ↔ image.length = 304 ∧ f.HeldBy image := by
  constructor
  · intro h
    unfold ofBytes? at h
    split at h
    · rename_i hlength
      have hsize : image.length = 304 := hlength
      cases h
      refine ⟨hsize, ?_, ?_, ?_, ?_, ?_, ?_, ?_⟩
      · exact holdsWord_wordAt (by omega)
      · exact holdsWord_wordAt (by omega)
      · exact holdsWord_wordAt (by omega)
      · exact holdsWord_wordAt (by omega)
      · intro i hi
        rw [arg_eq_getElem _ hi, Vector.getElem_ofFn]
        exact holdsWord_wordAt (by omega)
      · exact holdsWord_wordAt (by omega)
      · exact holdsWord_wordAt (by omega)
    · cases h
  · rintro ⟨hlength, h⟩
    have hsize : image.length = imageSize := hlength
    rw [ofBytes?, if_pos hsize]
    apply congrArg some
    apply Frame.ext
    · exact h.elr.wordAt_eq
    · exact h.spsr.wordAt_eq
    · exact h.scr.wordAt_eq
    · exact h.esr.wordAt_eq
    · apply Vector.ext
      intro i hi
      rw [Vector.getElem_ofFn, ← arg_eq_getElem f hi]
      exact (h.regs i hi).wordAt_eq
    · exact h.spLower.wordAt_eq
    · exact h.spEl1.wordAt_eq

/-! ### There and back -/

/-- The image with zeros in place of its reserved word. -/
def blank (image : List UInt8) : List UInt8 := image.take 296 ++ List.replicate 8 0

theorem getElem?_blank_reserved (hlength : image.length = 304) {k : Nat} (hk : k < 8) :
    (blank image)[296 + k]? = some 0 := by
  have htake : (image.take 296).length = 296 := by
    rw [List.length_take]
    omega
  rw [blank, List.getElem?_append_right (by omega), htake, Nat.add_sub_cancel_left,
    List.getElem?_replicate, if_pos hk]

/-- The other words stay. -/
theorem holdsWord_blank {offset : Nat} {w : UInt64} (h : HoldsWord image offset w)
    (hoffset : offset + 8 ≤ 296) : HoldsWord (blank image) offset w := by
  intro k hk
  have hbyte := h k hk
  have hinside : offset + k < image.length := (List.getElem?_eq_some_iff.mp hbyte).1
  have htake : offset + k < (image.take 296).length := by
    rw [List.length_take]
    omega
  rw [blank, List.getElem?_append_left htake, List.getElem?_take_of_lt (by omega)]
  exact hbyte

/-- So a frame that an image holds is the one that it is laid out as without its
reserved word. -/
theorem HeldBy.laidOut_blank (h : f.HeldBy image) (hlength : image.length = 304) :
    f.LaidOut (blank image) where
  elr := holdsWord_blank h.elr (by decide)
  spsr := holdsWord_blank h.spsr (by decide)
  scr := holdsWord_blank h.scr (by decide)
  esr := holdsWord_blank h.esr (by decide)
  regs i hi := holdsWord_blank (h.regs i hi) (by omega)
  spLower := holdsWord_blank h.spLower (by decide)
  spEl1 := holdsWord_blank h.spEl1 (by decide)
  length := by
    rw [blank, List.length_append, List.length_take, List.length_replicate]
    omega
  reserved k hk := by
    rw [getElem?_blank_reserved hlength hk, UInt64.toNat_zero, Nat.zero_div]
    rfl

/-- The byte image of a frame.  An image is read if and only if it has 304 bytes, and what
was read is written as the same image with zeros in the last eight of them.  Every frame
is read from the image that is written of it.  And that image has, lowest byte first, the
status words at 0, 8, 16 and 24, register number `i` at `32 + 8 * i`, the stack pointers
at 280 and 288, and zeros at 296. -/
theorem image_is_exact (raw : List UInt8) (f : Frame) :
    ((ofBytes? raw).isSome = true ↔ raw.length = 304) ∧
      (∀ g, ofBytes? raw = some g → g.toBytes = raw.take 296 ++ List.replicate 8 0) ∧
      ofBytes? f.toBytes = some f ∧ f.LaidOut f.toBytes := by
  have hlaid : f.LaidOut f.toBytes := laidOut_iff.mpr rfl
  refine ⟨isSome_ofBytes? raw, ?_, ?_, hlaid⟩
  · intro g hg
    obtain ⟨hlength, hheld⟩ := ofBytes?_eq_some_iff.mp hg
    show g.toBytes = blank raw
    exact (laidOut_iff.mp (hheld.laidOut_blank hlength)).symm
  · exact ofBytes?_eq_some_iff.mpr ⟨hlaid.length, hlaid.toHeldBy⟩

end Frame

end SecureMonitor
