namespace StalestFirst

/-! ## What can go wrong below the services -/

/-- Why an operation on the queue, on the store or on the settings failed. -/
inductive Fault where
  | notReady
  | emptyPool
  | boxNotFound (id : String)
  | storeUnavailable (reason : String)
  | store (reason : String)
  | timeout
  | settings (reason : String)
  | system (reason : String)
  | yaml (reason : String)
  | json (reason : String)
  deriving DecidableEq

namespace Fault

def message : Fault → String
  | .notReady => "queue is not ready"
  | .emptyPool => "no box available to serve"
  | .boxNotFound id => "box not found: " ++ id
  | .storeUnavailable reason => "store unavailable: " ++ reason
  | .store reason => "store error: " ++ reason
  | .timeout => "operation timed out"
  | .settings reason => "invalid configuration: " ++ reason
  | .system reason => reason
  | .yaml reason => reason
  | .json reason => reason

/-- Whether the same operation may well succeed later. -/
def isTransient : Fault → Bool
  | .notReady | .emptyPool | .storeUnavailable _ | .timeout => true
  | _ => false

end Fault

end StalestFirst
