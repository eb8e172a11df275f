/-
SecureMonitor/Proofs/Arithmetic.lean

What the test payload computes.  A call reads x1 and x2 at its own width w, so the
operands are the numbers

    a = x1 mod 2^w        b = x2 mod 2^w

and the result in x1 is the one that the operation has on numbers, modulo 2^w
(`Operator.modulo`).  A division by b = 0 is the only one without a result, also
where x2 is not zero but its lower half is.

* words: on 32 and on 64 bits the operations of the machine are those on numbers,
  wrapped around (`WrapsAround`);
* registers: a call of either width computes on words of that width
  (`eval_eq_modulo`);
* traps: whatever state the payload is in, the call computes and touches nothing
  (`arithmetic_is_modular`).
-/
import SecureMonitor.Interrupt.Queue
import SecureMonitor.Proofs.Identifier
import SecureMonitor.Proofs.Run

namespace SecureMonitor

/-- The number of bits in the registers of a call. -/
def CallWidth.bits : CallWidth → Nat
  | smc32 => 32
  | smc64 => 64

theorem CallWidth.bits_eq_iff {w : CallWidth} : w.bits = 64 ↔ w = .smc64 := by
  cases w <;> decide

theorem CallWidth.bits_of_decode {raw : UInt64} {id : CallId} (h : CallId.decode raw = .ok id) :
    id.width.bits = if bit raw 30 then 64 else 32 := by
  simp only [(CallId.decode_eq_ok_iff.mp h).wide_iff]
  cases id.width with
  | smc32 => rfl
  | smc64 => rfl

/-! ### Words -/

namespace Operator

/-- The function number of the operation. -/
def number : Operator → UInt16
  | add => 0x2000
  | sub => 0x2001
  | mul => 0x2002
  | div => 0x2003

/-- The result of the operation on numbers, modulo the first power of two that does
not fit in a word any more.  There is none for a division by zero. -/
def modulo (op : Operator) (bits a b : Nat) : Option Nat :=
  match op with
  | add => some ((a + b) % 2 ^ bits)
  | sub => some (((a : Int) - b) % (2 ^ bits : Nat)).toNat
  | mul => some (a * b % 2 ^ bits)
  | div => if b = 0 then none else some (a / b)

variable {bits a b n : Nat} {op : Operator}

/-- A result fits in a word if the first operand does. -/
theorem modulo_lt (ha : a < 2 ^ bits) (h : op.modulo bits a b = some n) : n < 2 ^ bits := by
  have hpos : 0 < 2 ^ bits := Nat.two_pow_pos bits
  cases op with
  | add =>
    cases h
    exact Nat.mod_lt _ hpos
  | sub =>
    cases h
    omega
  | mul =>
    cases h
    exact Nat.mod_lt _ hpos
  | div =>
    simp only [modulo] at h
    split at h
    · cases h
    · cases h
      exact Nat.lt_of_le_of_lt (Nat.div_le_self a b) ha

/-- Nothing but a division by zero is without a result. -/
theorem modulo_eq_none_iff : op.modulo bits a b = none ↔ op = .div ∧ b = 0 := by
  cases op with
  | div =>
    show (if b = 0 then none else some (a / b)) = none ↔ _
    by_cases hb : b = 0
    · simp [hb]
    · simp [hb]
  | _ => simp [modulo]

end Operator

/-- Words that stand for numbers, and operations on them that wrap around. -/
structure WrapsAround {α : Type} [Add α] [Sub α] [Mul α] [Div α] [OfNat α 0]
    (bits : Nat) (value : α → Nat) : Prop where
  eq_zero_iff : ∀ a : α, a = 0 ↔ value a = 0
  value_lt : ∀ a : α, value a < 2 ^ bits
  add : ∀ a b : α, value (a + b) = (value a + value b) % 2 ^ bits
  sub : ∀ a b : α, value (a - b) = (2 ^ bits - value b + value a) % 2 ^ bits
  mul : ∀ a b : α, value (a * b) = value a * value b % 2 ^ bits
  div : ∀ a b : α, value (a / b) = value a / value b

theorem wrapsAround_uInt32 : WrapsAround 32 UInt32.toNat where
  eq_zero_iff _ := UInt32.toNat_inj.symm
  value_lt := UInt32.toNat_lt
  add := UInt32.toNat_add
  sub := UInt32.toNat_sub
  mul := UInt32.toNat_mul
  div := UInt32.toNat_div

theorem wrapsAround_uInt64 : WrapsAround 64 UInt64.toNat where
  eq_zero_iff _ := UInt64.toNat_inj.symm
  value_lt := UInt64.toNat_lt
  add := UInt64.toNat_add
  sub := UInt64.toNat_sub
  mul := UInt64.toNat_mul
  div := UInt64.toNat_div

/-- A difference of words is the difference of the numbers, with a word's worth added
where that is negative. -/
theorem toNat_sub_emod {m a b : Nat} (hb : b ≤ m) :
    (((a : Int) - b) % m).toNat = (m - b + a) % m := by
  have hlift : ((m - b + a : Nat) : Int) = (a : Int) - b + m := by omega
  have hmod : (((m - b + a) % m : Nat) : Int) = ((a : Int) - b) % m := by
    rw [Int.natCast_emod, hlift, Int.add_emod_right]
  rw [← hmod]
  rfl

/-- So the operations on words are those on numbers. -/
theorem WrapsAround.apply {α : Type} [Add α] [Sub α] [Mul α] [Div α] [OfNat α 0] [DecidableEq α]
    {bits : Nat} {value : α → Nat} (h : WrapsAround bits value) (op : Operator) (a b : α) :
    (op.apply a b).map value = op.modulo bits (value a) (value b) := by
  cases op with
  | add => exact congrArg some (h.add a b)
  | sub =>
    show some (value (a - b)) = some _
    rw [h.sub, toNat_sub_emod (Nat.le_of_lt (h.value_lt b))]
  | mul => exact congrArg some (h.mul a b)
  | div =>
    show (if b = 0 then none else some (a / b)).map value = if value b = 0 then none else _
    by_cases hb : b = 0
    · rw [if_pos hb, if_pos ((h.eq_zero_iff b).mp hb)]
      rfl
    · rw [if_neg hb, if_neg (fun hv => hb ((h.eq_zero_iff b).mpr hv))]
      exact congrArg some (h.div a b)

/-! ### Registers -/

/-- A call of either width computes modulo its own power of two, on what its width
lets it see of the registers. -/
theorem Operator.eval_eq_modulo (op : Operator) (width : CallWidth) (a b : UInt64) :
    (op.eval width a b).map UInt64.toNat =
      op.modulo width.bits (a.toNat % 2 ^ width.bits) (b.toNat % 2 ^ width.bits) := by
  cases width with
  | smc32 =>
    -- a lower half is the same number in a register of its own and in the whole one
    have hlow := wrapsAround_uInt32.apply op a.toUInt32 b.toUInt32
    rw [UInt64.toNat_toUInt32, UInt64.toNat_toUInt32] at hlow
    show ((op.apply a.toUInt32 b.toUInt32).map UInt32.toUInt64).map UInt64.toNat = _
    rw [Option.map_map]
    exact hlow
  | smc64 =>
    show (op.apply a b).map UInt64.toNat =
      op.modulo 64 (a.toNat % 2 ^ 64) (b.toNat % 2 ^ 64)
    rw [Nat.mod_eq_of_lt a.toNat_lt, Nat.mod_eq_of_lt b.toNat_lt]
    exact wrapsAround_uInt64.apply op a b

/-! ### Serving the call -/

theorem TspFunction.ofNumber?_number (op : Operator) :
    ofNumber? op.number.toNat = some (arithmetic op) := by
  cases op <;> rfl

/-- A number stands for the operation whatever the width and the type of the call. -/
theorem Call.resolve_arithmetic {id : CallId} {op : Operator} (owned : id.owner = .tsp)
    (numbered : id.number = op.number) : Call.resolve id = .ok (.tsp (.arithmetic op)) := by
  rw [Call.resolve_eq_ok_iff, owned, numbered, Call.ofNumber?, TspFunction.ofNumber?_number]
  rfl

/-- The payload computes in any state and stays in it. -/
theorem Tsp.handle_arithmetic (t : Tsp) (op : Operator) (request : Request) :
    t.handle (.arithmetic op) request =
      match op.eval request.id.width request.operands.x1 request.operands.x2 with
      | some r => (.ok ⟨.entryDone, { x1 := r }, .caller⟩, t)
      | none => (.error (.malformed .invalidArgument), t) := by
  simp only [handle, obstacle_arithmetic, TspFunction.results]
  cases op.eval request.id.width request.operands.x1 request.operands.x2 with
  | some r => rfl
  | none => rfl

namespace Core

variable {γ : Type} [InterruptController γ] {core : Core} {v : TrapVector} {f : Frame}
  {id : CallId} {op : Operator}

theorem perform_arithmetic (core : Core) (f : Frame) (id : CallId) (op : Operator) :
    core.perform f id (.tsp (.arithmetic op)) =
      match op.eval id.width (f.arg 1) (f.arg 2) with
      | some r =>
        ⟨.ok (.entryDone, f.writeReturn Event.entryDone.value { x1 := r }),
          { core with phase := .returning }, []⟩
      | none =>
        ⟨.error (.malformed .invalidArgument), { core with phase := .returning }, []⟩ := by
  have hserve : core.services.tsp.handle (.arithmetic op) (core.request f id) =
      match op.eval id.width (f.arg 1) (f.arg 2) with
      | some r => (.ok ⟨.entryDone, { x1 := r }, .caller⟩, core.services.tsp)
      | none => (.error (.malformed .invalidArgument), core.services.tsp) :=
    Tsp.handle_arithmetic ..
  rw [perform_tsp, hserve]
  cases op.eval id.width (f.arg 1) (f.arg 2) with
  | some r => rfl
  | none => rfl

/-- What a call for a computation comes to, to the last word in the journal. -/
theorem handle_arithmetic (idle : core.phase = .idle) (found : v.disposition f.esr = .call)
    (routed : Call.route v.origin f.callId = .ok (id, .tsp (.arithmetic op))) (controller : γ) :
    core.handle v f controller =
      match op.eval id.width (f.arg 1) (f.arg 2) with
      | some r =>
        { result := .ok (.completed .entryDone)
          frame := f.writeReturn Event.entryDone.value { x1 := r }
          controller := controller, log := [.taken v f.elr, .routed id], core := core }
      | none =>
        { result := .ok (.refused (.malformed .invalidArgument))
          frame := f.writeReturn (Refusal.malformed .invalidArgument).value {}
          controller := controller
          log := [.taken v f.elr, .routed id,
            .refused f.callId (.malformed .invalidArgument)]
          core := core } := by
  have hperform := core.perform_arithmetic f id op
  cases heval : op.eval id.width (f.arg 1) (f.arg 2) with
  | some r =>
    simp only [heval] at hperform
    have hresult := congrArg Performed.result hperform
    rw [handle_of_served idle found routed hresult, hperform]
    obtain ⟨level, phase, services, parked⟩ := core
    obtain rfl : phase = .idle := idle
    rfl
  | none =>
    simp only [heval] at hperform
    have hresult := congrArg Performed.result hperform
    rw [handle_of_unserved idle found routed hresult, hperform]
    rfl

/-- A call that gets to the payload: the core is as it was, and x1 is the result modulo
the power of two of the call's width, if there is one. -/
theorem computes_of_routed (idle : core.phase = .idle) (found : v.disposition f.esr = .call)
    (routed : Call.route v.origin f.callId = .ok (id, .tsp (.arithmetic op))) (controller : γ) :
    let bits := id.width.bits
    let a := (f.arg 1).toNat % 2 ^ bits
    let b := (f.arg 2).toNat % 2 ^ bits
    let step := core.handle v f controller
    step.core = core ∧ step.controller = controller ∧
      (¬(op = .div ∧ b = 0) → ∃ n r, op.modulo bits a b = some n ∧ n < 2 ^ bits ∧
        step.result = .ok (.completed .entryDone) ∧ UInt64.toNat r = n ∧
        f.Answered 0xf2000000 { x1 := r, x2 := 0, x3 := 0 } step.frame) ∧
      (op = .div ∧ b = 0 →
        step.result = .ok (.refused (.malformed .invalidArgument)) ∧
          f.Answered (-3) {} step.frame) := by
  intro bits a b step
  have hstep : step = _ := handle_arithmetic idle found routed controller
  have heval : (op.eval id.width (f.arg 1) (f.arg 2)).map UInt64.toNat = op.modulo bits a b :=
    op.eval_eq_modulo id.width (f.arg 1) (f.arg 2)
  have hfits : a < 2 ^ bits := Nat.mod_lt _ (Nat.two_pow_pos bits)
  cases he : op.eval id.width (f.arg 1) (f.arg 2) with
  | some r =>
    rw [he] at hstep heval
    rw [hstep]
    refine ⟨rfl, rfl, ?_, ?_⟩
    · intro _
      exact ⟨r.toNat, r, heval.symm, Operator.modulo_lt hfits heval.symm, rfl, rfl,
        Frame.answered_writeReturn ..⟩
    · intro hzero
      exact nomatch heval.trans (Operator.modulo_eq_none_iff.mpr hzero)
  | none =>
    rw [he] at hstep heval
    rw [hstep]
    refine ⟨rfl, rfl, ?_, ?_⟩
    · intro hresult
      exact absurd (Operator.modulo_eq_none_iff.mp heval.symm) hresult
    · intro _
      exact ⟨rfl, Frame.answered_writeReturn ..⟩

/-- Arithmetic of the test payload.  Let any idle core take a call of one of the four
functions, with any x1 and x2, whatever state the payload is in.  With `bits` the width
that bit 30 of the identifier gives the call, and `a` and `b` what x1 and x2 are modulo
`2 ^ bits`: the call completes with the result of the operation modulo `2 ^ bits` in x1,
which has nothing above these bits, and zeros in x2 and x3; or it is a division and `b`
is zero, and then the call is refused for its arguments.  Either way the core and the
controller stay as they are.  To 32-bit code this is open with a 32-bit identifier only,
and with another one the call is refused for its width. -/
theorem arithmetic_is_modular (idle : core.phase = .idle) (hcall : v.IsCall f)
    (decoded : CallId.decode f.callId = .ok id) (owned : id.owner = .tsp)
    (numbered : id.number = op.number) (controller : γ) :
    let bits := if bit f.callId 30 then 64 else 32
    let a := (f.arg 1).toNat % 2 ^ bits
    let b := (f.arg 2).toNat % 2 ^ bits
    let step := core.handle v f controller
    step.core = core ∧ step.controller = controller ∧
      (v.origin = .lowerAArch64 ∨ bits = 32 →
        (¬(op = .div ∧ b = 0) → ∃ n r, op.modulo bits a b = some n ∧ n < 2 ^ bits ∧
          step.result = .ok (.completed .entryDone) ∧ UInt64.toNat r = n ∧
          f.Answered 0xf2000000 { x1 := r, x2 := 0, x3 := 0 } step.frame) ∧
        (op = .div ∧ b = 0 →
          step.result = .ok (.refused (.malformed .invalidArgument)) ∧
            f.Answered (-3) {} step.frame)) ∧
      (v.origin = .lowerAArch32 ∧ bits = 64 →
        step.result = .ok (.refused (.malformed .widthMismatch)) ∧
          f.Answered (-3) {} step.frame) := by
  intro bits a b step
  have found := TrapVector.isCall_iff.mp hcall
  have hbits : id.width.bits = bits := CallWidth.bits_of_decode decoded
  have hwidth : bits = 64 ↔ id.width = .smc64 := by rw [← hbits, CallWidth.bits_eq_iff]
  by_cases hwide : v.origin = .lowerAArch32 ∧ id.width = .smc64
  · -- the call gets no further than its width
    have hastray : Call.route v.origin f.callId = .error (.malformed .widthMismatch) := by
      rw [hwide.1]
      exact Call.route_of_too_wide decoded hwide.2
    have hstep : step = _ := handle_of_astray idle found hastray controller
    rw [hstep]
    refine ⟨rfl, rfl, ?_, ?_⟩
    · rintro (horigin | hnarrow)
      · exact nomatch horigin.symm.trans hwide.1
      · have hboth := hwidth.mpr hwide.2
        omega
    · intro _
      exact ⟨rfl, Frame.answered_writeReturn ..⟩
  · -- it gets to the payload
    have hroute : Call.route v.origin f.callId = .ok (id, .tsp (.arithmetic op)) :=
      Call.route_eq_ok_iff.mpr ⟨decoded, hwide, Call.resolve_arithmetic owned numbered⟩
    have hcomputes := computes_of_routed idle found hroute controller
    rw [hbits] at hcomputes
    obtain ⟨hcore, hcontroller, hresult, hzero⟩ := hcomputes
    refine ⟨hcore, hcontroller, fun _ => ⟨hresult, hzero⟩, ?_⟩
    rintro ⟨horigin, hsixtyFour⟩
    exact absurd ⟨horigin, hwidth.mp hsixtyFour⟩ hwide

/-- A core at EL1 whose payload is suspended and had a call preempted computes for
32-bit code.  Of the registers the lower halves count: 3 minus 5 is two below 2 ^ 32,
and a division is one by zero. -/
theorem arithmetic_is_modular_narrow :
    let sync : TrapVector := ⟨.lowerAArch32, .synchronous⟩
    let call := fun id x1 x2 : UInt64 => Frame.calling 0 id { x1 := x1, x2 := x2 }
    let core := (fresh .el1).coreAfter (⟨[]⟩ : InterruptQueue)
      [(sync, call 0xb2000006 0 0), (sync, call 0xb2000005 0 0)]
    let difference := core.handle sync (call 0xb2002001 0x100000003 0x200000005)
      (⟨[]⟩ : InterruptQueue)
    let quotient := core.handle sync (call 0xb2002003 8 0x300000000) (⟨[]⟩ : InterruptQueue)
    core.phase = .idle ∧ core.services.tsp = ⟨.suspended, true⟩ ∧
      difference.result = .ok (.completed .entryDone) ∧
      difference.frame.operands = { x1 := 0xfffffffe, x2 := 0, x3 := 0 } ∧
      quotient.result = .ok (.refused (.malformed .invalidArgument)) ∧
      difference.core = core ∧ quotient.core = core := by
  intro sync call core difference quotient
  have idle : core.phase = .idle := by decide +zetaReduce
  have hstate : core.services.tsp = ⟨.suspended, true⟩ := by decide +zetaReduce
  have hclass : field 0x5e000000 26 6 = 0x17 := by decide
  have hcall (id x1 x2 : UInt64) : sync.IsCall (call id x1 x2) := ⟨rfl, .inr rfl, .inr hclass⟩
  have hsub : CallId.decode (call 0xb2002001 0x100000003 0x200000005).callId =
      .ok ⟨.fast, .smc32, .tsp, 0x2001⟩ := by
    rw [Frame.callId_calling]
    rfl
  have hdiv : CallId.decode (call 0xb2002003 8 0x300000000).callId =
      .ok ⟨.fast, .smc32, .tsp, 0x2003⟩ := by
    rw [Frame.callId_calling]
    rfl
  have hminus : (0x2001 : UInt16) = Operator.number .sub := rfl
  have hover : (0x2003 : UInt16) = Operator.number .div := rfl
  obtain ⟨hsame, -, hdifference, -⟩ :=
    arithmetic_is_modular idle (hcall ..) hsub rfl hminus (⟨[]⟩ : InterruptQueue)
  obtain ⟨hsame', -, hquotient, -⟩ :=
    arithmetic_is_modular idle (hcall ..) hdiv rfl hover (⟨[]⟩ : InterruptQueue)
  obtain ⟨n, r, hn, -, hdone, hr, hanswered⟩ :=
    (hdifference (.inr (by decide +zetaReduce))).1 (by decide +zetaReduce)
  obtain ⟨hrefused, -⟩ :=
    (hquotient (.inr (by decide +zetaReduce))).2 ⟨rfl, by decide +zetaReduce⟩
  refine ⟨idle, hstate, hdone, ?_, hrefused, hsame, hsame'⟩
  have hvalue : some n = some 0xfffffffe := hn.symm.trans (by decide +zetaReduce)
  have hword : r = 0xfffffffe := UInt64.toNat_inj.mp (hr.trans (Option.some.inj hvalue))
  rw [← hword]
  exact hanswered.results

end Core

end SecureMonitor
