import StalestFirst.NameMap

namespace StalestFirst

/-! ## Health

A service is healthy while none of its named checks fails. -/

/-- For each check why it fails, if it does. -/
structure Health where
  checks : NameMap (Option String)
  deriving DecidableEq

namespace Health

def set (health : Health) (name : String) (reason : Option String) : Health :=
  ⟨health.checks.insert name reason⟩

/-- The check that every service has and that never fails. -/
def standard : Health := (Health.mk NameMap.empty).set "ping" none

/-- The health of a service with a queue of its own. It fails until the queue is
ready. -/
def withQueue (health : Health) (ready : Bool) : Health :=
  health.set "queue" (if ready then none else some "queue is not ready")

/-- The first check that fails, in the order of the names, and why. -/
def firstFailure (health : Health) : Option String :=
  health.checks.entries.findSome? fun entry =>
    entry.2.map fun reason => entry.1 ++ ": " ++ reason

end Health

end StalestFirst
