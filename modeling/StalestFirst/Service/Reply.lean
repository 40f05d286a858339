import StalestFirst.Http.Message
import StalestFirst.Service.Failure
import StalestFirst.Service.Health

namespace StalestFirst

/-! ## Answers of the services -/

inductive Service where
  | queue
  | box
  | telemetry
  deriving DecidableEq

/-- The greatest body of a request, in bytes. -/
def bodyLimit : Nat := 2097152

namespace Reply

def ofEnvelope (status : Nat) (envelope : Envelope Json) : Http.Response :=
  ⟨status, some "application/json", Wire.print envelope⟩

/-- The answer to a request with its result or why it failed. -/
def ofOutcome {α : Type} [Wire α] (metadata : Metadata)
    (outcome : Except Failure α) : Http.Response :=
  match outcome with
  | .ok result => ofEnvelope 200 ⟨metadata, some (Wire.toJson result), none⟩
  | .error failure =>
      let refusal := Refusal.ofFailure failure
      ofEnvelope refusal.status (refusal.envelope metadata)

def ofFault (metadata : Metadata) (fault : RequestFault) : Http.Response :=
  ofOutcome metadata (.error (.request fault) : Except Failure Json)

def tooLong : Http.Response :=
  .text 413 "Failed to buffer the request body: length limit exceeded"

/-- The answer to a request that took too long. -/
def cutOff : Http.Response := .bare 408

/-- What is answered without looking at what a request asks for: nothing but the
root is served, and only bodies up to a limit are read. -/
def beforehand? (request : Http.Request) : Option Http.Response :=
  if request.target.path = [Http.ascii '/'] then
    if bodyLimit < request.body.length then some tooLong else none
  else some (.bare 404)

/-- The answer of the telemetry service. -/
def ofHealth (health : Health) (request : Http.Request) : Http.Response :=
  if request.target.path = Http.asciiBytes "/healthz" then
    if request.method = "GET" ∨ request.method = "HEAD" then
      match health.firstFailure with
      | none => .text 200 "ok"
      | some reason => .text 500 reason
    else .bare 405
  else .bare 404

end Reply

end StalestFirst
