/-
SecureMonitor/Journal.lean

The journal as the parts of the monitor see it.  Until it is installed it
takes nothing.  It is installed once, with the least grave severity that it
shall take, and a second attempt changes nothing.
-/
import SecureMonitor.Journal.Logger
import SecureMonitor.Journal.Notice

namespace SecureMonitor

structure Journal where
  logger : Logger := {}
  installed : Bool := false
  /-- The least grave severity that is taken, if any is. -/
  threshold : Option Severity := none

/-- Why the journal cannot be installed. -/
inductive InstallError
  | alreadyInstalled
deriving DecidableEq, Repr

def InstallError.message : InstallError → String
  | alreadyInstalled =>
    "attempted to set a logger after the logging system was already initialized"

namespace Journal

def install (j : Journal) (threshold : Option Severity) : Except InstallError Journal :=
  if j.installed then .error .alreadyInstalled
  else .ok { j with installed := true, threshold := threshold }

/-- The journal takes records of this severity. -/
def takes (j : Journal) (s : Severity) : Bool := j.installed && s.passes j.threshold

def log (j : Journal) (r : Record) : Journal :=
  if j.takes r.severity then { j with logger := j.logger.log r } else j

/-- Log what a part of the monitor has to say. -/
def logAll (j : Journal) (notices : List Notice) : Journal :=
  notices.foldl (fun j n => j.log n.record) j

def serialReady (j : Journal) : Journal := { j with logger := j.logger.serialReady }

end Journal

end SecureMonitor
