/-
SecureMonitor/Service.lean

The services that the monitor hosts.  A call names the service it is for by
a six-bit owning entity number; each service has one, and no two share it
(`ofOwner?_owner`).
-/
namespace SecureMonitor

/-- A service hosted behind secure monitor calls. -/
inductive Service
  /-- The test secure payload: a power lifecycle and some arithmetic. -/
  | tsp
  /-- The message interface of a trusted operating system. -/
  | optee
  /-- Applets that run in the secure world. -/
  | custom
deriving DecidableEq, Repr

namespace Service

/-- The services in the order in which they are announced. -/
def all : List Service := [tsp, optee, custom]

/-- The owning entity number. -/
def owner : Service → Nat
  | tsp => 0x32
  | optee => 0x3e
  | custom => 0x3d

/-- The service with an owning entity number, looked for among all of them. -/
def ofOwner? (n : Nat) : Option Service := all.find? (·.owner == n)

def name : Service → String
  | tsp => "TSP"
  | optee => "OP-TEE"
  | custom => "CUSTOM"

theorem owner_lt (s : Service) : s.owner < 64 := by cases s <;> decide

@[simp] theorem ofOwner?_owner (s : Service) : ofOwner? s.owner = some s := by
  cases s <;> rfl

theorem eq_owner_of_ofOwner? {n : Nat} {s : Service} (h : ofOwner? n = some s) :
    n = s.owner := by
  rw [ofOwner?] at h
  have howner := List.find?_some h
  exact (beq_iff_eq.mp howner).symm

theorem ofOwner?_eq_some_iff {n : Nat} {s : Service} : ofOwner? n = some s ↔ n = s.owner :=
  ⟨eq_owner_of_ofOwner?, fun h => h ▸ ofOwner?_owner s⟩

end Service

end SecureMonitor
