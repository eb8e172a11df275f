/-
SecureMonitor/Proofs/Precedence.lean

Which fault of a call decides.  A call can be wrong in several ways at once.
They are looked for from the top of the identifier down, and the first that
is found is the answer:

    bits 63:32 not zero                              upper bits set
    bits 23:17 not zero, or bit 16 without bit 31    reserved bits set
    bits 29:24 name no service                       unrecognized entity
    bit 30 set, in a call from 32-bit code           width mismatch
    bits 15:0 name no function of the service        unknown function

This is the table `Call.firstFault`.  It says when the path from an identifier
to a function fails and with what (`route_eq_error_iff`), so what is in the
table never gets to a service and everything else does; and a service, or the
core after it, has reasons of its own to refuse (`Refusal.OfService`), none of
which is in the table.
-/
import SecureMonitor.Interrupt.Queue
import SecureMonitor.Proofs.Handling
import SecureMonitor.Proofs.Identifier

namespace SecureMonitor

/-! ### The table -/

/-- The function numbers of the service with an owning entity number. -/
def functionNumbers : Nat → List Nat
  | 0x32 => [0, 1, 2, 3, 4, 5, 6, 7, 8, 0x2000, 0x2001, 0x2002, 0x2003]
  | 0x3e => [1, 4, 0xff03]
  | 0x3d => [0, 1, 2, 3, 4, 5, 6, 7, 8]
  | _ => []

/-- What is wrong with an identifier, when the call comes from `origin`. -/
def Call.firstFault (origin : TrapOrigin) (raw : UInt64) : Option Refusal :=
  let entity := field raw 24 6
  let number := field raw 0 16
  if 2 ^ 32 ≤ raw.toNat then some (.malformed .upperBitsSet)
  else if field raw 17 7 ≠ 0 ∨ (bit raw 16 = true ∧ bit raw 31 = false) then
    some (.malformed .reservedBitsSet)
  else if entity ∉ [0x32, 0x3d, 0x3e] then some (.unrecognizedEntity entity)
  else if origin = .lowerAArch32 ∧ bit raw 30 = true then some (.malformed .widthMismatch)
  else if number ∉ functionNumbers entity then
    some (.malformed (.unknownFunction (UInt16.ofNat number)))
  else none

/-- The reasons that a service has for refusing a call, or the core when it is
to go on. -/
inductive Refusal.OfService : Refusal → Prop
  | invalidArgument : OfService (.malformed .invalidArgument)
  | callTypeMismatch : OfService (.malformed .callTypeMismatch)
  | busy : OfService .busy
  | denied (why : Denial) : OfService (.denied why)

/-- They are not faults of an identifier. -/
theorem Call.not_ofService_of_firstFault {origin : TrapOrigin} {raw : UInt64} {why : Refusal}
    (h : firstFault origin raw = some why) : ¬why.OfService := by
  -- line by line of the table
  simp only [firstFault] at h
  repeat' split at h
  all_goals cases h
  all_goals nofun

/-! ### The functions of a service -/

theorem Service.ofOwner?_eq_none_iff {n : Nat} :
    ofOwner? n = none ↔ n ∉ [0x32, 0x3d, 0x3e] := by
  simp only [ofOwner?, List.find?_eq_none, beq_iff_eq, all, List.mem_cons, List.not_mem_nil,
    or_false, forall_eq_or_imp, forall_eq, owner]
  omega

theorem Service.owner_mem (s : Service) : s.owner ∈ [0x32, 0x3d, 0x3e] := by
  cases s <;> decide

theorem TspFunction.ofNumber?_eq_none_iff {n : Nat} :
    ofNumber? n = none ↔ n ∉ functionNumbers 0x32 := by
  unfold ofNumber?
  split <;> simp_all [functionNumbers]

theorem OpTeeFunction.ofNumber?_eq_none_iff {n : Nat} :
    ofNumber? n = none ↔ n ∉ functionNumbers 0x3e := by
  unfold ofNumber?
  split <;> simp_all [functionNumbers]

theorem AppletFunction.ofNumber?_eq_none_iff {n : Nat} :
    ofNumber? n = none ↔ n ∉ functionNumbers 0x3d := by
  have hnumbers : n ∈ functionNumbers 0x3d ↔ n ≤ appletSlots := by
    simp only [functionNumbers, appletSlots, List.mem_cons, List.not_mem_nil, or_false]
    omega
  rw [hnumbers]
  cases n with
  | zero => simp [ofNumber?]
  | succ slot =>
    rw [Nat.succ_le_iff]
    simp [ofNumber?]

theorem Call.ofNumber?_eq_none_iff {s : Service} {n : Nat} :
    ofNumber? s n = none ↔ n ∉ functionNumbers s.owner := by
  cases s with
  | tsp => exact Option.map_eq_none_iff.trans TspFunction.ofNumber?_eq_none_iff
  | optee => exact Option.map_eq_none_iff.trans OpTeeFunction.ofNumber?_eq_none_iff
  | custom => exact Option.map_eq_none_iff.trans AppletFunction.ofNumber?_eq_none_iff

/-! ### The path from an identifier to a function -/

namespace CallId

variable {raw : UInt64}

theorem upperBitsSet_iff : upperBitsSet raw = true ↔ 2 ^ 32 ≤ raw.toNat := by
  have := raw.toNat_lt
  simp only [upperBitsSet, field, bne_iff_ne]
  omega

theorem reservedBitsSet_iff :
    reservedBitsSet raw = true ↔
      field raw 17 7 ≠ 0 ∨ (bit raw 16 = true ∧ bit raw 31 = false) := by
  cases h : bit raw 31 <;> simp [reservedBitsSet, callTypeOf, h]

end CallId

namespace Call

variable {origin : TrapOrigin} {raw : UInt64} {id : CallId} {call : Call} {why : Refusal}

/-- The first three lines of the table are what reading an identifier looks for. -/
theorem firstFault_of_decode_error (h : CallId.decode raw = .error why) (origin : TrapOrigin) :
    firstFault origin raw = some why := by
  unfold CallId.decode at h
  simp only [CallId.upperBitsSet_iff, CallId.reservedBitsSet_iff] at h
  split at h
  · rename_i hupper
    cases h
    simp only [firstFault, if_pos hupper]
  · rename_i hupper
    split at h
    · rename_i hreserved
      cases h
      simp only [firstFault, if_neg hupper, if_pos hreserved]
    · rename_i hreserved
      split at h
      · rename_i hnone
        cases h
        have hentity := Service.ofOwner?_eq_none_iff.mp hnone
        rw [CallId.ownerNumber] at hentity ⊢
        simp only [firstFault, if_neg hupper, if_neg hreserved, if_pos hentity]
      · cases h

/-- The other two are looked for in an identifier that was read. -/
theorem firstFault_of_decode_ok (h : CallId.decode raw = .ok id) (origin : TrapOrigin) :
    firstFault origin raw =
      if origin = .lowerAArch32 ∧ id.width = .smc64 then some (.malformed .widthMismatch)
      else if id.number.toNat ∉ functionNumbers id.owner.owner then
        some (.malformed (.unknownFunction id.number))
      else none := by
  have hspells := CallId.decode_eq_ok_iff.mp h
  have hupper : ¬2 ^ 32 ≤ raw.toNat := by
    rw [← CallId.upperBitsSet_iff, CallId.upperBitsSet_eq_false_iff.mpr hspells.upper]
    decide
  have hreserved : ¬(field raw 17 7 ≠ 0 ∨ (bit raw 16 = true ∧ bit raw 31 = false)) := by
    have htype := CallId.callTypeOf_eq_iff.mpr hspells.callType
    rw [← CallId.reservedBitsSet_iff, CallId.reservedBitsSet_eq_false_iff.mpr
      ⟨hspells.reserved, fun hyielding => hspells.unhinted (htype.symm.trans hyielding)⟩]
    decide
  have hentity : ¬id.owner.owner ∉ [0x32, 0x3d, 0x3e] := Classical.not_not.mpr id.owner.owner_mem
  simp only [firstFault, if_neg hupper, if_neg hreserved, hspells.owner, if_neg hentity,
    hspells.wide_iff, hspells.number, UInt16.ofNat_toNat]

/-- A call goes astray by the first fault of its identifier. -/
theorem route_eq_error_iff : route origin raw = .error why ↔ firstFault origin raw = some why := by
  unfold route
  cases hd : CallId.decode raw with
  | error found =>
    rw [firstFault_of_decode_error hd]
    simp
  | ok id =>
    rw [firstFault_of_decode_ok hd]
    by_cases hwide : origin = .lowerAArch32 ∧ id.width = .smc64
    · simp [hwide]
    · simp only [if_neg hwide]
      cases hnumber : ofNumber? id.owner id.number.toNat with
      | none =>
        have hmissing := ofNumber?_eq_none_iff.mp hnumber
        simp [resolve, hnumber, if_pos hmissing]
      | some call =>
        have hlisted : ¬id.number.toNat ∉ functionNumbers id.owner.owner := by
          rw [← ofNumber?_eq_none_iff, hnumber]
          nofun
        simp [resolve, hnumber, if_neg hlisted]

/-- A call without a fault is a call of some function. -/
theorem exists_route_of_firstFault_eq_none (h : firstFault origin raw = none) :
    ∃ id call, route origin raw = .ok (id, call) := by
  cases routed : route origin raw with
  | error why => exact nomatch h.symm.trans (route_eq_error_iff.mp routed)
  | ok found => exact ⟨found.1, found.2, rfl⟩

end Call

/-! ### What a service refuses -/

theorem TspFunction.results_error {fn : TspFunction} {width : CallWidth} {args : Operands}
    {why : Refusal} (h : fn.results width args = .error why) :
    why = .malformed .invalidArgument := by
  cases fn with
  | arithmetic op =>
    simp only [results] at h
    split at h <;> cases h
    rfl
  | _ => cases h

/-- A service refuses a call for a reason of its own. -/
theorem Services.ofService_of_handle {s : Services} {call : Call} {request : Request}
    {why : Refusal} (h : s.handle call request = .error why) : why.OfService := by
  have hserve : (s.serve call request).1 = .error why :=
    congrArg Prod.fst (handle_eq_error_iff.mp h)
  cases call with
  | tsp fn =>
    rcases (Tsp.handle_error hserve).2 with ⟨denial, -, rfl⟩ | ⟨-, hresults⟩
    · exact .denied denial
    · rw [TspFunction.results_error hresults]
      exact .invalidArgument
  | optee fn =>
    rw [(OpTee.handle_error hserve).2]
    exact .callTypeMismatch
  | custom fn =>
    obtain ⟨denial, rfl⟩ := Applets.handle_error hserve
    exact .denied denial

namespace Core

variable {core : Core} {v : TrapVector} {f : Frame} {id : CallId} {call : Call} {why : Refusal}

/-- A core that cannot go on as it is asked has its parking place taken, or
the wrong level for another world, or no one to go back to. -/
theorem ofService_of_resume {r : Resume} (h : core.resume f r = .error why) : why.OfService := by
  cases r with
  | caller => cases h
  | jump => cases h
  | enter w entry stack =>
    simp only [resume] at h
    split at h
    · cases h
      exact .denied _
    · split at h <;> cases h
      exact .busy
  | restore =>
    simp only [resume] at h
    split at h
    · cases h
      exact .denied _
    · split at h <;> cases h
      exact .denied _

/-! ### What a service answers -/

/-- A call that completes does so as its service says. -/
theorem handle_of_perform_ok {event : Event} {g : Frame}
    (h : (core.perform f id call).result = .ok (event, g)) :
    ∃ reply services, core.services.handle call (core.request f id) = .ok (reply, services) ∧
      reply.event = event := by
  rcases core.perform_cases f id call with
    ⟨_, -, hresult, -⟩ | ⟨_, _, _, -, -, hresult, -⟩ |
    ⟨reply, services, _, _, hserve, -, hresult, -⟩
  · exact nomatch hresult.symm.trans h
  · exact nomatch hresult.symm.trans h
  · refine ⟨reply, services, Services.handle_eq_ok_iff.mpr hserve, ?_⟩
    exact congrArg Prod.fst (Except.ok.inj (hresult.symm.trans h))

/-- A call is refused by its service, or by the core that cannot go on as the service says. -/
theorem handle_of_perform_error (h : (core.perform f id call).result = .error why) :
    core.services.handle call (core.request f id) = .error why ∨
      ∃ reply services, core.services.handle call (core.request f id) = .ok (reply, services) ∧
        core.resume f reply.resume = .error why := by
  rcases core.perform_cases f id call with
    ⟨refused, hserve, hresult, -⟩ | ⟨reply, services, refused, hserve, hr, hresult, -⟩ |
    ⟨_, _, _, _, -, -, hresult, -⟩
  · obtain rfl := Except.error.inj (hresult.symm.trans h)
    exact .inl (Services.handle_eq_error_iff.mpr hserve)
  · obtain rfl := Except.error.inj (hresult.symm.trans h)
    exact .inr ⟨reply, services, Services.handle_eq_ok_iff.mpr hserve, hr⟩
  · exact nomatch hresult.symm.trans h

/-- Either way it is for a reason of the service. -/
theorem ofService_of_perform (h : (core.perform f id call).result = .error why) :
    why.OfService := by
  rcases handle_of_perform_error h with hserve | ⟨reply, services, -, hr⟩
  · exact Services.ofService_of_handle hserve
  · exact ofService_of_resume hr

/-! ### Coming to a service -/

/-- A trap is found at the first checkpoint that it comes to. -/
theorem reach?_of_next? {t u : InFlight} (h : t.next? = some u)
    (hne : t.checkpoint ≠ u.checkpoint) : t.reach? u.checkpoint = some u := by
  simp only [InFlight.reach?, InFlight.stops, h]
  cases u.next? <;> simp [hne]

/-- A call that goes astray passes by every service. -/
theorem reach?_accepted_of_astray (found : v.disposition f.esr = .call)
    (astray : Call.route v.origin f.callId = .error why) : core.reach? v f .accepted = none := by
  unfold reach?
  split
  · -- it is taken, it is refused, and that is all
    simp [InFlight.reach?, InFlight.stops, InFlight.start, InFlight.next?, InFlight.checkpoint,
      Progress.enter, found, astray]
  · rfl

/-- Any other comes to the service that has its function. -/
theorem reach?_accepted_of_routed (idle : core.phase = .idle) (found : v.disposition f.esr = .call)
    (routed : Call.route v.origin f.callId = .ok (id, call)) :
    ∃ p, core.reach? v f .accepted = some (.accepted id call p) := by
  have hnext (p : Progress) (hp : p.frame = f) : (InFlight.taken v p).next? =
      some (.accepted id call ((p.enter .routing).accept id)) := by
    simp only [InFlight.next?, Progress.enter, hp, found, routed]
  simp only [reach?, idle]
  refine ⟨_, reach?_of_next? (hnext _ rfl) ?_⟩
  simp only [InFlight.checkpoint]
  decide

variable {γ : Type} [InterruptController γ]

/-- The first fault decides.  Let an idle core be handed a monitor call from
below.  If there is a fault in the table, the first one is the answer, whatever
else is wrong; it is none of a service's reasons, no service is asked, and the core is
as it was.  If there is none, the identifier is that of a function, the call comes to the
service that has it, and the service is asked.  If it replies and the core can go on
as the reply says, the call completes with the event of the reply; if it refuses, or the
core cannot go on, the call is refused for that reason, which is one of a service. -/
theorem first_fault_decides (idle : core.phase = .idle) (call : v.IsCall f) (controller : γ) :
    let raw := f.arg 0
    let step := core.handle v f controller
    (∀ why, Call.firstFault v.origin raw = some why →
      step.result = .ok (.refused why) ∧ ¬why.OfService ∧ core.reach? v f .accepted = none ∧
        step.core = core) ∧
    (Call.firstFault v.origin raw = none →
      ∃ id function, CallId.decode raw = .ok id ∧ Call.resolve id = .ok function ∧
        (∃ p, core.reach? v f .accepted = some (.accepted id function p)) ∧
        ((∃ reply services g,
            core.services.handle function (core.request f id) = .ok (reply, services) ∧
            (core.perform f id function).result = .ok (reply.event, g) ∧
            step.result = .ok (.completed reply.event)) ∨
          ∃ why,
            (core.services.handle function (core.request f id) = .error why ∨
              ∃ reply services,
                core.services.handle function (core.request f id) = .ok (reply, services) ∧
                  core.resume f reply.resume = .error why) ∧
            (core.perform f id function).result = .error why ∧ why.OfService ∧
            step.result = .ok (.refused why))) := by
  intro raw step
  have found := TrapVector.isCall_iff.mp call
  refine ⟨?_, ?_⟩
  · intro why hfault
    have astray : Call.route v.origin f.callId = .error why := Call.route_eq_error_iff.mpr hfault
    have hstep := handle_of_astray idle found astray controller
    exact ⟨congrArg (·.result) hstep, Call.not_ofService_of_firstFault hfault,
      reach?_accepted_of_astray found astray, congrArg (·.core) hstep⟩
  · intro hnone
    obtain ⟨id, function, routed⟩ := Call.exists_route_of_firstFault_eq_none hnone
    obtain ⟨hdecode, hresolve⟩ := Call.route_eq_ok routed
    refine ⟨id, function, hdecode, hresolve, reach?_accepted_of_routed idle found routed, ?_⟩
    cases hserved : (core.perform f id function).result with
    | ok done =>
      obtain ⟨e, g⟩ := done
      have hstep := handle_of_served idle found routed hserved controller
      obtain ⟨reply, services, hreply, rfl⟩ := handle_of_perform_ok hserved
      exact .inl ⟨reply, services, g, hreply, rfl, congrArg (·.result) hstep⟩
    | error why =>
      have hstep := handle_of_unserved idle found routed hserved controller
      exact .inr ⟨why, handle_of_perform_error hserved, rfl, ofService_of_perform hserved,
        congrArg (·.result) hstep⟩

/-- 32-bit code at fault in three ways: it makes a 64-bit call of a function that
there is not, of a service that there is not.  The service decides, then the
width; and a call without a fault comes to its service, which finds that it
cannot divide by zero. -/
theorem first_fault_decides_overlapping :
    let answer := fun id => ((fresh .el1).handle ⟨.lowerAArch32, .synchronous⟩
      (Frame.calling 0 id { x1 := 7 }) (⟨[]⟩ : InterruptQueue)).result
    answer 0xff000063 = .ok (.refused (.unrecognizedEntity 0x3f)) ∧
      answer 0xf2000063 = .ok (.refused (.malformed .widthMismatch)) ∧
      ∃ why, why.OfService ∧ answer 0xb2002003 = .ok (.refused why) := by
  intro answer
  have hcall (id : UInt64) : TrapVector.IsCall ⟨.lowerAArch32, .synchronous⟩
      (Frame.calling 0 id { x1 := 7 }) :=
    have hclass : field 0x5e000000 26 6 = 0x17 := by decide
    ⟨rfl, .inr rfl, .inr hclass⟩
  have idle : (fresh .el1).phase = .idle := rfl
  have hdivided : answer 0xb2002003 = .ok (.refused (.malformed .invalidArgument)) := rfl
  refine ⟨?_, ?_, ?_⟩
  · exact ((first_fault_decides idle (hcall 0xff000063) _).1 _ (by decide)).1
  · exact ((first_fault_decides idle (hcall 0xf2000063) _).1 _ (by decide)).1
  · obtain ⟨-, -, -, -, -, ⟨_, -, -, -, -, hresult⟩ | ⟨why, -, -, hwhy, hresult⟩⟩ :=
      (first_fault_decides idle (hcall 0xb2002003) (⟨[]⟩ : InterruptQueue)).2 (by decide)
    · exact nomatch hdivided.symm.trans hresult
    · exact ⟨why, hwhy, hresult⟩

end Core

end SecureMonitor
