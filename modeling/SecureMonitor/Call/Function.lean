/-
SecureMonitor/Call/Function.lean

The function that an identifier asks for: the functions of all services
under one roof, and the path from a raw identifier to one of them.  Faults
are reported in the order in which the path meets them: those of the
identifier, its width against the caller's, its function number.
-/
import SecureMonitor.Trap.Vector
import SecureMonitor.Service.Tsp
import SecureMonitor.Service.OpTee
import SecureMonitor.Service.Applets

namespace SecureMonitor

/-- A function of one of the services. -/
inductive Call
  | tsp (f : TspFunction)
  | optee (f : OpTeeFunction)
  | custom (f : AppletFunction)
deriving DecidableEq, Repr

namespace Call

/-- The service that has the function. -/
def owner : Call → Service
  | tsp _ => .tsp
  | optee _ => .optee
  | custom _ => .custom

/-- The function that a service has under a number. -/
def ofNumber? (s : Service) (n : Nat) : Option Call :=
  match s with
  | .tsp => (TspFunction.ofNumber? n).map tsp
  | .optee => (OpTeeFunction.ofNumber? n).map optee
  | .custom => (AppletFunction.ofNumber? n).map custom

/-- The function that an identifier asks for. -/
def resolve (id : CallId) : Except Refusal Call :=
  match ofNumber? id.owner id.number.toNat with
  | some call => .ok call
  | none => .error (.malformed (.unknownFunction id.number))

/-- A function belongs to the service it was looked up in. -/
theorem owner_of_ofNumber? {s : Service} {n : Nat} {call : Call}
    (h : ofNumber? s n = some call) : call.owner = s := by
  cases s <;> simp only [ofNumber?, Option.map_eq_some_iff] at h <;>
    obtain ⟨f, -, rfl⟩ := h <;> rfl

theorem resolve_eq_ok_iff {id : CallId} {call : Call} :
    resolve id = .ok call ↔ ofNumber? id.owner id.number.toNat = some call := by
  unfold resolve
  split <;> simp_all

/-- Find what a trapped call asks for.  32-bit code can make 32-bit calls only. -/
def route (origin : TrapOrigin) (raw : UInt64) : Except Refusal (CallId × Call) :=
  match CallId.decode raw with
  | .error why => .error why
  | .ok id =>
    if origin = .lowerAArch32 ∧ id.width = .smc64 then .error (.malformed .widthMismatch)
    else match resolve id with
      | .error why => .error why
      | .ok call => .ok (id, call)

section

variable {origin : TrapOrigin} {raw : UInt64} {id : CallId} {call : Call}

/-- A call is found if its identifier is in order, its caller is wide enough for it
and a function has its number. -/
theorem route_eq_ok_iff :
    route origin raw = .ok (id, call) ↔
      CallId.decode raw = .ok id ∧ ¬(origin = .lowerAArch32 ∧ id.width = .smc64) ∧
        resolve id = .ok call := by
  constructor
  · intro h
    unfold route at h
    split at h
    · -- the identifier is at fault
      cases h
    · rename_i decoded hd
      split at h
      · -- its width is more than the caller has
        cases h
      · rename_i hwidth
        split at h
        · -- no function has its number
          cases h
        · rename_i found hr
          cases h
          exact ⟨hd, hwidth, hr⟩
  · rintro ⟨hd, hwidth, hr⟩
    simp only [route, hd, if_neg hwidth, hr]

theorem route_eq_ok (h : route origin raw = .ok (id, call)) :
    CallId.decode raw = .ok id ∧ resolve id = .ok call := by
  obtain ⟨hd, -, hr⟩ := route_eq_ok_iff.mp h
  exact ⟨hd, hr⟩

/-- It is a function of the service that the identifier names. -/
theorem ofNumber?_of_route (h : route origin raw = .ok (id, call)) :
    id.owner = call.owner ∧ ofNumber? call.owner id.number.toNat = some call := by
  have hnumber := resolve_eq_ok_iff.mp (route_eq_ok h).2
  have howner : call.owner = id.owner := owner_of_ofNumber? hnumber
  rw [← howner] at hnumber
  exact ⟨howner.symm, hnumber⟩

/-- 32-bit code gets no further than a 32-bit call. -/
theorem width_of_route (h : route .lowerAArch32 raw = .ok (id, call)) : id.width = .smc32 := by
  have hwidth := (route_eq_ok_iff.mp h).2.1
  cases hw : id.width with
  | smc32 => rfl
  | smc64 => exact absurd ⟨rfl, hw⟩ hwidth

/-- A 64-bit call from it is turned down before its number is looked at. -/
theorem route_of_too_wide (decoded : CallId.decode raw = .ok id) (wide : id.width = .smc64) :
    route .lowerAArch32 raw = .error (.malformed .widthMismatch) := by
  simp only [route, decoded, wide, and_self, if_true]

end

end Call

end SecureMonitor
