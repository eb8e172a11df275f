/-
SecureMonitor/Journal/Logger.lean

The logger keeps records in its buffer until the serial line is ready, as
lines of the form

    [LEVEL] target: message

with the level set to the right in five columns.  From then on lines go out
on the serial line and the buffer stays empty.  While a line is being
written into the buffer no other line can be: one that comes in between
goes out on the serial line at once, and leaves no trace here.
-/
import SecureMonitor.Journal.Record
import SecureMonitor.Journal.Buffer

namespace SecureMonitor

/-! ### Lines -/

/-- The name of a severity, to the right in five columns. -/
def Severity.column (s : Severity) : String :=
  "".pushn ' ' (5 - s.name.length) ++ s.name

/-- The line of a record. -/
def Record.line (r : Record) : String :=
  s!"[{r.severity.column}] {r.target}: {r.message}\n"

/-- The pieces in which it is written. -/
def Record.parts (r : Record) : List String :=
  ["[", r.severity.column, "] ", r.target, ": ", r.message, "\n"]

theorem Record.join_parts (r : Record) : String.join r.parts = r.line := by
  simp only [parts, line, String.join_cons, String.join_nil, String.append_empty,
    String.append_assoc, toString]

/-! ### The logger -/

structure Logger where
  buffer : LogBuffer := {}
  /-- The serial line is ready. -/
  direct : Bool := false
  /-- A line is being written into the buffer. -/
  held : Bool := false

namespace Logger

/-- The least grave records that a logger takes. -/
def enabled (s : Severity) : Bool := s.passes (some .trace)

@[simp] theorem enabled_eq_true (s : Severity) : enabled s = true := s.passes_trace

def isBuffering (l : Logger) : Bool := !l.direct

/-- Log a record. -/
def log (l : Logger) (r : Record) : Logger :=
  if !enabled r.severity || l.direct || l.held then l
  else { l with buffer := l.buffer.record r.parts }

/-- Log a record while whose line is being written others come in. -/
def logAround (l : Logger) (r : Record) (others : List Record) : Logger :=
  let l := others.foldl log { l with held := true }
  { l with held := false }.log r

/-- The serial line is ready: the buffer is sent and emptied for good. -/
def serialReady (l : Logger) : Logger :=
  { l with buffer := l.buffer.clear, direct := true }

theorem log_of_buffering {l : Logger} (hdirect : l.direct = false) (hheld : l.held = false)
    (r : Record) : l.log r = { l with buffer := l.buffer.record r.parts } := by
  simp [log, hdirect, hheld]

theorem log_of_direct {l : Logger} (h : l.direct = true) (r : Record) : l.log r = l := by
  simp [log, h]

theorem log_of_held {l : Logger} (h : l.held = true) (r : Record) : l.log r = l := by
  simp [log, h]

/-- Lines that come in while the buffer is taken leave nothing in it. -/
theorem foldl_log_of_held {l : Logger} (h : l.held = true) (rs : List Record) :
    rs.foldl log l = l := by
  induction rs with
  | nil => rfl
  | cons r rs ih => rw [List.foldl_cons, log_of_held h, ih]

theorem logAround_eq {l : Logger} (h : l.held = false) (r : Record) (others : List Record) :
    l.logAround r others = l.log r := by
  -- taking the buffer and giving it back leaves the logger as it was
  obtain ⟨buffer, direct, held⟩ := l
  obtain rfl : held = false := h
  simp only [logAround, foldl_log_of_held]

/-! ### Using the logger -/

/-- What is done with a logger. -/
inductive Action
  /-- A record is logged, and others come in while its line is being written. -/
  | log (r : Record) (others : List Record)
  | serialReady
deriving DecidableEq, Repr

/-- Do one action. -/
def apply (l : Logger) : Action → Logger
  | .log r others => l.logAround r others
  | .serialReady => l.serialReady

/-- Do actions one after another. -/
def applyAll (l : Logger) (actions : List Action) : Logger := actions.foldl apply l

@[simp] theorem applyAll_nil (l : Logger) : l.applyAll [] = l := rfl

@[simp] theorem applyAll_cons (l : Logger) (action : Action) (rest : List Action) :
    l.applyAll (action :: rest) = (l.apply action).applyAll rest := rfl

theorem applyAll_append (l : Logger) (xs ys : List Action) :
    l.applyAll (xs ++ ys) = (l.applyAll xs).applyAll ys :=
  List.foldl_append

end Logger

end SecureMonitor
