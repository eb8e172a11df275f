/-
SecureMonitor/Proofs/WholeRecords.lean

What the journal's buffer holds.  The pieces of a record are written before it is
known that all of them fit, so the memory is, while a record is being written,

    0                     start             position         8192
    accepted records      pieces of one     left over

and when a piece finds no room the position goes back to `start`.  Against this stands
what should come out: a line is accepted if it fits behind the lines accepted before it
(`accepted`), whatever the pieces that it comes in.

* a piece of text: it is behind what was there, and what was there stays
  (`Holds.write?_of_le`), also if the position goes back again (`Holds.rewind`);
* a record: its line is there, or nothing of it is and it is counted
  (`Holds.record_of_le`, `Holds.record_of_lt`);
* any records, from the start: the accepted lines, in order (`asAccepted_foldl_record`).

The logger feeds its buffer with lines until the serial line is ready, and never again
(`whole_records_only`).
-/
import Mathlib.Algebra.Group.Nat.Defs
import SecureMonitor.Journal.Logger

namespace SecureMonitor

namespace LogBuffer

variable {b : LogBuffer} {text more piece : String} {pieces lines : List String}

/-! ### The text in a buffer -/

/-- The buffer holds the text, and the position is right behind it. -/
structure Holds (b : LogBuffer) (text : String) : Prop where
  data_eq : b.data = text.toByteArray
  position_eq : b.position = text.utf8ByteSize

theorem holds_fresh : ({} : LogBuffer).Holds "" where
  data_eq := ByteArray.extract_same
  position_eq := rfl

/-- Text lies in memory, so the position does too. -/
theorem Holds.position_le (h : b.Holds text) : b.position ≤ capacity := by
  have hsize := congrArg ByteArray.size h.data_eq
  rw [data, ByteArray.size_extract, String.size_toByteArray, b.size_memory, ← h.position_eq]
    at hsize
  omega

theorem Holds.text?_eq (h : b.Holds text) : b.text? = some text := by
  rw [text?, h.data_eq, String.fromUTF8?, dif_pos text.isValidUTF8]
  rfl

theorem Holds.contents_eq (h : b.Holds text) : b.contents = text := by
  rw [contents, h.text?_eq, Option.getD_some]

/-- There is as much room as the text leaves. -/
theorem Holds.le_remaining_iff (h : b.Holds text) (n : Nat) :
    n ≤ b.remaining ↔ text.utf8ByteSize + n ≤ capacity := by
  have hle := h.position_le
  rw [remaining, ← h.position_eq]
  omega

/-- Going back to the end of earlier text gives this text back. -/
theorem Holds.rewind (h : b.Holds (text ++ more)) :
    (b.rewind text.utf8ByteSize).Holds text where
  data_eq := by
    have hdata : b.memory.extract 0 b.position = text.toByteArray ++ more.toByteArray := by
      rw [← String.toByteArray_append]
      exact h.data_eq
    have hle : text.utf8ByteSize ≤ b.position := by
      rw [h.position_eq, String.utf8ByteSize_append]
      omega
    calc b.memory.extract 0 text.utf8ByteSize
        = (b.memory.extract 0 b.position).extract 0 text.utf8ByteSize := by
          rw [ByteArray.extract_extract, Nat.zero_add, Nat.zero_add, Nat.min_eq_left hle]
      _ = text.toByteArray := by
          rw [hdata]
          exact ByteArray.extract_append_eq_left String.size_toByteArray.symm
  position_eq := rfl

/-! ### Writing a piece -/

theorem Holds.write?_of_le (h : b.Holds text)
    (hfits : text.utf8ByteSize + piece.utf8ByteSize ≤ capacity) :
    ∃ written, b.write? piece = some written ∧ written.Holds (text ++ piece) ∧
      written.losses = b.losses := by
  rw [write?, dif_pos ((h.le_remaining_iff _).mpr hfits)]
  refine ⟨_, rfl, ⟨?_, ?_⟩, rfl⟩
  · have hinside : b.position ≤ b.memory.size := by
      rw [b.size_memory]
      exact h.position_le
    rw [String.toByteArray_append, ← h.data_eq]
    exact extract_overwrite hinside piece
  · rw [String.utf8ByteSize_append]
    exact congrArg (· + piece.utf8ByteSize) h.position_eq

theorem Holds.write?_of_lt (h : b.Holds text)
    (hfull : capacity < text.utf8ByteSize + piece.utf8ByteSize) : b.write? piece = none := by
  rw [write?, dif_neg]
  rw [h.le_remaining_iff]
  exact Nat.not_le.mpr hfull

/-! ### Writing a record -/

/-- Pieces that fit together are all written. -/
theorem Holds.writeAll_of_le (h : b.Holds text)
    (hfits : text.utf8ByteSize + (String.join pieces).utf8ByteSize ≤ capacity) :
    ∃ written, b.writeAll pieces = (written, true) ∧
      written.Holds (text ++ String.join pieces) ∧ written.losses = b.losses := by
  induction pieces generalizing b text with
  | nil =>
    rw [String.join_nil, String.append_empty]
    exact ⟨b, rfl, h, rfl⟩
  | cons piece pieces ih =>
    rw [String.join_cons, String.utf8ByteSize_append] at hfits
    have hpiece : text.utf8ByteSize + piece.utf8ByteSize ≤ capacity := by omega
    obtain ⟨next, hnext, hholds, hlosses⟩ := h.write?_of_le hpiece
    obtain ⟨written, hwritten, hall, hsame⟩ :=
      ih hholds (by rw [String.utf8ByteSize_append]; omega)
    refine ⟨written, ?_, ?_, hsame.trans hlosses⟩
    · rw [writeAll, hnext]
      exact hwritten
    · rw [String.join_cons, ← String.append_assoc]
      exact hall

/-- Of other pieces those before the first without room are written. -/
theorem Holds.writeAll_of_lt (h : b.Holds text)
    (hfull : capacity < text.utf8ByteSize + (String.join pieces).utf8ByteSize) :
    ∃ written more, b.writeAll pieces = (written, false) ∧ written.Holds (text ++ more) ∧
      written.losses = b.losses := by
  induction pieces generalizing b text with
  | nil =>
    have hle := h.position_le
    rw [h.position_eq] at hle
    rw [String.join_nil, String.utf8ByteSize_empty] at hfull
    omega
  | cons piece pieces ih =>
    rcases Nat.lt_or_ge capacity (text.utf8ByteSize + piece.utf8ByteSize) with hpiece | hpiece
    · -- the first piece is the one without room
      refine ⟨b, "", ?_, ?_, rfl⟩
      · rw [writeAll, h.write?_of_lt hpiece]
      · rw [String.append_empty]
        exact h
    · rw [String.join_cons, String.utf8ByteSize_append] at hfull
      obtain ⟨next, hnext, hholds, hlosses⟩ := h.write?_of_le hpiece
      obtain ⟨written, more, hwritten, hsome, hsame⟩ :=
        ih hholds (by rw [String.utf8ByteSize_append]; omega)
      refine ⟨written, piece ++ more, ?_, ?_, hsame.trans hlosses⟩
      · rw [writeAll, hnext]
        exact hwritten
      · rw [← String.append_assoc]
        exact hsome

/-- A record that fits is behind what was there. -/
theorem Holds.record_of_le (h : b.Holds text)
    (hfits : text.utf8ByteSize + (String.join pieces).utf8ByteSize ≤ capacity) :
    (b.record pieces).Holds (text ++ String.join pieces) ∧
      (b.record pieces).losses = b.losses := by
  obtain ⟨written, hwritten, hholds, hlosses⟩ := h.writeAll_of_le hfits
  rw [LogBuffer.record, hwritten]
  exact ⟨hholds, hlosses⟩

/-- Of one that does not fit nothing is there, and it is counted. -/
theorem Holds.record_of_lt (h : b.Holds text)
    (hfull : capacity < text.utf8ByteSize + (String.join pieces).utf8ByteSize) :
    (b.record pieces).Holds text ∧ (b.record pieces).losses = b.losses + 1 := by
  obtain ⟨written, more, hwritten, hholds, hlosses⟩ := h.writeAll_of_lt hfull
  -- what was written of the record is behind the position again
  have hback : (written.rewind b.position).Holds text := by
    rw [h.position_eq]
    exact hholds.rewind
  rw [LogBuffer.record, hwritten]
  exact ⟨⟨hback.data_eq, hback.position_eq⟩, congrArg (· + 1) hlosses⟩

/-- In the middle of a record the position is no further than the memory. -/
theorem Holds.position_writeAll_le (h : b.Holds text) (pieces : List String) :
    (b.writeAll pieces).1.position ≤ capacity := by
  rcases Nat.lt_or_ge capacity (text.utf8ByteSize + (String.join pieces).utf8ByteSize)
    with hfull | hfits
  · obtain ⟨written, more, hwritten, hholds, -⟩ := h.writeAll_of_lt hfull
    rw [hwritten]
    exact hholds.position_le
  · obtain ⟨written, hwritten, hholds, -⟩ := h.writeAll_of_le hfits
    rw [hwritten]
    exact hholds.position_le

/-! ### Which lines are accepted -/

/-- One more line behind those accepted before it, if it fits there. -/
def accept (taken : List String) (line : String) : List String :=
  if (String.join taken).utf8ByteSize + line.utf8ByteSize ≤ capacity then taken ++ [line]
  else taken

/-- Of lines that come one after another, those that are accepted. -/
def accepted (lines : List String) : List String := lines.foldl accept []

theorem accepted_append_singleton (lines : List String) (line : String) :
    accepted (lines ++ [line]) = accept (accepted lines) line := by
  rw [accepted, List.foldl_append]
  rfl

/-- A shorter line may still be accepted where a longer one was not. -/
theorem accepted_append_pair {long short : String}
    (hlong : capacity < (String.join (accepted lines)).utf8ByteSize + long.utf8ByteSize)
    (hshort : (String.join (accepted lines)).utf8ByteSize + short.utf8ByteSize ≤ capacity) :
    accepted (lines ++ [long, short]) = accepted lines ++ [short] := by
  have hskip : accepted (lines ++ [long]) = accepted lines := by
    rw [accepted_append_singleton, accept, if_neg (Nat.not_le.mpr hlong)]
  have hsplit : lines ++ [long, short] = lines ++ [long] ++ [short] := by
    rw [List.append_assoc, List.singleton_append]
  rw [hsplit, accepted_append_singleton, hskip, accept, if_pos hshort]

/-- Of so many records the buffer has kept the lines that were taken, and counted the
others. -/
structure Keeps (b : LogBuffer) (taken : List String) (count : Nat) : Prop where
  holds : b.Holds (String.join taken)
  length_le : taken.length ≤ count
  dropped_eq : b.dropped = (count - taken.length) % 2 ^ 64

theorem keeps_fresh : ({} : LogBuffer).Keeps [] 0 where
  holds := holds_fresh
  length_le := Nat.le_refl 0
  dropped_eq := rfl

/-- A record is kept as a whole or counted. -/
theorem Keeps.record {taken : List String} {count : Nat} (h : b.Keeps taken count)
    (pieces : List String) :
    (b.record pieces).Keeps (accept taken (String.join pieces)) (count + 1) := by
  obtain ⟨hholds, hlength, hcount⟩ := h
  by_cases hfits :
      (String.join taken).utf8ByteSize + (String.join pieces).utf8ByteSize ≤ capacity
  · obtain ⟨hnext, hlosses⟩ := hholds.record_of_le hfits
    rw [accept, if_pos hfits]
    refine ⟨?_, ?_, ?_⟩
    · rw [String.join_append, String.join_cons, String.join_nil, String.append_empty]
      exact hnext
    · rw [List.length_append, List.length_singleton]
      exact Nat.succ_le_succ hlength
    · rw [dropped, hlosses, List.length_append, List.length_singleton, Nat.add_sub_add_right]
      exact hcount
  · obtain ⟨hnext, hlosses⟩ := hholds.record_of_lt (Nat.not_le.mp hfits)
    rw [accept, if_neg hfits]
    refine ⟨hnext, Nat.le_succ_of_le hlength, ?_⟩
    -- the counter takes one step round the word
    have hstep : (b.losses + 1).toNat = (b.losses.toNat + 1) % 2 ^ 64 :=
      UInt64.toNat_add b.losses 1
    rw [dropped] at hcount ⊢
    rw [hlosses, hstep, hcount, Nat.succ_sub hlength, Nat.mod_add_mod]

theorem Keeps.foldl_record {taken : List String} {count : Nat} (h : b.Keeps taken count)
    (records : List (List String)) :
    (records.foldl LogBuffer.record b).Keeps ((records.map String.join).foldl accept taken)
      (count + records.length) := by
  induction records generalizing b taken count with
  | nil => exact h
  | cons pieces records ih =>
    have hnext := ih (h.record pieces)
    rw [Nat.add_assoc, Nat.add_comm 1] at hnext
    exact hnext

/-! ### What comes out -/

/-- The buffer as it should be after these lines. -/
structure AsAccepted (b : LogBuffer) (lines : List String) : Prop where
  /-- The bytes are text, and it is that of the accepted lines. -/
  text?_eq : b.text? = some (String.join (accepted lines))
  contents_eq : b.contents = String.join (accepted lines)
  /-- The lines that were not accepted are counted, in a word that goes round. -/
  dropped_eq : b.dropped = (lines.length - (accepted lines).length) % 2 ^ 64
  /-- There have to be very many of them before it does. -/
  dropped_add : lines.length < 2 ^ 64 → b.dropped + (accepted lines).length = lines.length
  /-- Now, and at each piece of the next record, the room that is left and the room that
  is taken are all the room there is. -/
  position_add_remaining : ∀ pieces,
    (b.writeAll pieces).1.position + (b.writeAll pieces).1.remaining = capacity

theorem Keeps.asAccepted (h : b.Keeps (accepted lines) lines.length) : b.AsAccepted lines where
  text?_eq := h.holds.text?_eq
  contents_eq := h.holds.contents_eq
  dropped_eq := h.dropped_eq
  dropped_add hfew := by
    have hlength := h.length_le
    have hlost : lines.length - (accepted lines).length < 2 ^ 64 := by omega
    rw [h.dropped_eq, Nat.mod_eq_of_lt hlost, Nat.sub_add_cancel hlength]
  position_add_remaining pieces := Nat.add_sub_cancel' (h.holds.position_writeAll_le pieces)

theorem asAccepted_foldl_record (records : List (List String)) :
    (records.foldl LogBuffer.record {}).AsAccepted (records.map String.join) := by
  have hkeeps := keeps_fresh.foldl_record records
  rw [Nat.zero_add, ← List.length_map String.join] at hkeeps
  exact hkeeps.asAccepted

end LogBuffer

/-! ### The logger -/

namespace Logger

variable {l : Logger}

/-- Nothing is in the buffer of a logger that writes to the serial line. -/
structure Emptied (l : Logger) : Prop where
  direct : l.direct = true
  holds : l.buffer.Holds ""
  dropped : l.buffer.dropped = 0

theorem emptied_serialReady (l : Logger) : l.serialReady.Emptied where
  direct := rfl
  holds := ⟨ByteArray.extract_same, rfl⟩
  dropped := rfl

/-- And nothing gets into it any more. -/
theorem Emptied.apply (h : l.Emptied) (action : Action) : (l.apply action).Emptied := by
  cases action with
  | serialReady => exact emptied_serialReady l
  | log r others =>
    -- none of the lines finds its way into the buffer, neither this one nor the others
    have hlog : l.logAround r others = { l with held := false } := by
      have hdirect : ({ l with held := false } : Logger).direct = true := h.direct
      unfold logAround
      rw [foldl_log_of_held rfl]
      exact log_of_direct hdirect r
    rw [Logger.apply, hlog]
    exact ⟨h.direct, h.holds, h.dropped⟩

theorem Emptied.applyAll (h : l.Emptied) (actions : List Action) :
    (l.applyAll actions).Emptied := by
  induction actions generalizing l with
  | nil => exact h
  | cons action rest ih => exact ih (h.apply action)

/-- Up to then the buffer gets the lines of the records, each in its pieces, and not those
that come in between. -/
theorem buffer_applyAll_log (l : Logger) (hdirect : l.direct = false)
    (hheld : l.held = false) (entries : List (Record × List Record)) :
    (l.applyAll (entries.map fun e => .log e.1 e.2)).buffer =
      (entries.map fun e => e.1.parts).foldl LogBuffer.record l.buffer := by
  induction entries generalizing l with
  | nil => rfl
  | cons e entries ih =>
    have hnext : l.apply (.log e.1 e.2) = { l with buffer := l.buffer.record e.1.parts } := by
      rw [Logger.apply, logAround_eq hheld, log_of_buffering hdirect hheld]
    rw [List.map_cons, applyAll_cons, hnext, List.map_cons, List.foldl_cons]
    exact ih _ hdirect hheld

end Logger

/-! ### What comes of the records -/

theorem utf8ByteSize_join_replicate (n : Nat) (s : String) :
    (String.join (List.replicate n s)).utf8ByteSize = n * s.utf8ByteSize := by
  induction n with
  | zero => rw [List.replicate_zero, String.join_nil, String.utf8ByteSize_empty, Nat.zero_mul]
  | succ n ih =>
    rw [List.replicate_succ, String.join_cons, String.utf8ByteSize_append, ih, Nat.succ_mul,
      Nat.add_comm]

/-- The buffer takes whole records only, and each that fits.  After any records, each in
any pieces, it holds the lines that were accepted, one behind the other: those that fit,
each at its time, behind the lines accepted before, so that a shorter one is accepted also
after a longer one was not.  It has counted the others, modulo `2 ^ 64` and so exactly
for fewer than `2 ^ 64` records, its bytes are text, and the position never leaves its
memory, not even in the middle of a record.
The same goes for the buffer of a logger and the lines of the records logged before the
serial line is ready, also if others come in while one is being written.  Once the serial
line is ready the buffer is empty and nothing is counted, and this stays so whatever is
done. -/
theorem whole_records_only :
    (∀ records : List (List String),
      (records.foldl LogBuffer.record {}).AsAccepted (records.map String.join)) ∧
    (∀ lines long short,
      LogBuffer.capacity <
        (String.join (LogBuffer.accepted lines)).utf8ByteSize + long.utf8ByteSize →
      (String.join (LogBuffer.accepted lines)).utf8ByteSize + short.utf8ByteSize ≤
        LogBuffer.capacity →
      LogBuffer.accepted (lines ++ [long, short]) = LogBuffer.accepted lines ++ [short]) ∧
    (∀ entries : List (Record × List Record),
      (Logger.applyAll {} (entries.map fun e => .log e.1 e.2)).buffer.AsAccepted
        (entries.map fun e => e.1.line)) ∧
    (∀ before after : List Logger.Action,
      let l := Logger.applyAll {} (before ++ .serialReady :: after)
      l.buffer.text? = some "" ∧ l.buffer.contents = "" ∧ l.buffer.position = 0 ∧
        l.buffer.dropped = 0) := by
  refine ⟨LogBuffer.asAccepted_foldl_record, ?_, ?_, ?_⟩
  · intro lines long short hlong hshort
    exact LogBuffer.accepted_append_pair hlong hshort
  · intro entries
    have hlines : (entries.map fun e => e.1.line) =
        (entries.map fun e => e.1.parts).map String.join := by
      simp only [List.map_map, Function.comp_def, Record.join_parts]
    rw [Logger.buffer_applyAll_log {} rfl rfl, hlines]
    exact LogBuffer.asAccepted_foldl_record _
  · intro before after
    have hemptied : (Logger.applyAll {} (before ++ .serialReady :: after)).Emptied := by
      rw [Logger.applyAll_append, Logger.applyAll_cons]
      exact (Logger.emptied_serialReady _).applyAll after
    exact ⟨hemptied.holds.text?_eq, hemptied.holds.contents_eq, hemptied.holds.position_eq,
      hemptied.dropped⟩

/-- A line that is one byte too long for the whole buffer, and a line of one byte.  The
first is counted, the second is what the buffer holds. -/
theorem whole_records_only_byte_after_all :
    let long := String.join (List.replicate 8193 "x")
    let b := [[long], ["x"]].foldl LogBuffer.record {}
    LogBuffer.capacity < long.utf8ByteSize ∧ LogBuffer.accepted [long, "x"] = ["x"] ∧
      b.contents = "x" ∧ b.dropped = 1 := by
  intro long b
  have hsize : long.utf8ByteSize = 8193 := by
    rw [utf8ByteSize_join_replicate]
    rfl
  have htoolong : LogBuffer.capacity < long.utf8ByteSize := by
    rw [hsize]
    decide
  have hlong : LogBuffer.capacity < (String.join (LogBuffer.accepted [])).utf8ByteSize +
      long.utf8ByteSize := by
    rw [hsize]
    decide
  have haccepted : LogBuffer.accepted [long, "x"] = ["x"] :=
    whole_records_only.2.1 [] long "x" hlong (by decide)
  have hheld : b.AsAccepted [long, "x"] := by
    have h := whole_records_only.1 [[long], ["x"]]
    rw [List.map_cons, List.map_cons, List.map_nil, String.join_cons, String.join_nil,
      String.append_empty] at h
    exact h
  refine ⟨htoolong, haccepted, ?_, ?_⟩
  · rw [hheld.contents_eq, haccepted]
    rfl
  · have hcount := hheld.dropped_add (by decide)
    rw [haccepted] at hcount
    exact Nat.succ.inj hcount

end SecureMonitor
