import StalestFirst.Fault
import StalestFirst.Text.Quoted
import StalestFirst.Text.Digits
import StalestFirst.Wire.Envelope

namespace StalestFirst

/-! ## Failures of requests -/

inductive RequestFault where
  | unsupportedAction (action version : String)
  | unsupportedContentType (type : String)
  | malformedParameter (name : String)
  deriving DecidableEq

def RequestFault.message : RequestFault → String
  | .unsupportedAction action version =>
      "action " ++ Text.Quoted.quote action ++ " with version " ++
        Text.Quoted.quote version ++ " is not supported"
  | .unsupportedContentType type =>
      "unsupported content type " ++ Text.Quoted.quote type
  | .malformedParameter name => "parameter " ++ name ++ " is malformed"

/-- Why asking a queue failed: no answer was had, the queue service answered with
an error, with a status that tells of one, or with something that cannot be read,
or the queue itself failed. -/
inductive ClientFault where
  | exchange (timedOut : Bool) (reason : String)
  | remote (status : Nat) (error : ErrorBody)
  | status (status : Nat) (url : String)
  | unreadable (reason : String)
  | queue (fault : Fault)
  deriving DecidableEq

def ClientFault.message : ClientFault → String
  | .exchange _ reason => "queue request failed: " ++ reason
  | .remote _ error =>
      "queue service answered " ++ error.code ++ ": " ++ error.message
  | .status code url =>
      "queue service answered HTTP " ++ Text.number code ++ " at " ++ url
  | .unreadable reason => "unreadable queue response: " ++ reason
  | .queue fault => fault.message

/-- Why a request failed. Every failure may be told with a text about what was
being done. -/
inductive Failure where
  | request (fault : RequestFault)
  | fault (fault : Fault)
  | client (fault : ClientFault)
  | other (text : String)
  | inContext (context : String) (cause : Failure)

/-! ## What the sender of a request is told -/

/-- The status of an answer that tells of a failure, and the error in it. -/
structure Refusal where
  status : Nat
  error : ErrorBody
  deriving DecidableEq

namespace Refusal

private def plain (status : Nat) (code message : String) : Refusal :=
  ⟨status, ⟨code, message, NameMap.empty⟩⟩

private def withData (status : Nat) (code message : String)
    (data : List (String × String)) : Refusal :=
  ⟨status, ⟨code, message, NameMap.ofList data⟩⟩

/-- The refusal that tells nothing of its cause. -/
def internal : Refusal :=
  plain 500 "InternalServiceError"
    "The service hit an internal error. Please contact the administrator."

def ofRequest (fault : RequestFault) : Refusal :=
  match fault with
  | .unsupportedAction action version =>
      withData 404 "InvalidActionOrVersion" fault.message
        [("Action", action), ("Version", version)]
  | .unsupportedContentType _ =>
      plain 415 "UnsupportedContentType" fault.message
  | .malformedParameter name =>
      withData 400 "MalformedParameter" fault.message [("Parameter", name)]

/-- The refusal for a fault below the services. Only what the sender can act on
is told. -/
def ofFault (fault : Fault) : Refusal :=
  match fault with
  | .notReady | .emptyPool => plain 503 "ServiceUnavailable" fault.message
  | .boxNotFound id =>
      withData 404 "ResourceNotFound" fault.message [("ResourceName", id)]
  | .timeout => plain 504 "InternalServiceTimeout" fault.message
  | _ => internal

/-- The refusal when the queue could not be asked. What the queue service said is
passed on. -/
def ofClient : ClientFault → Refusal
  | .queue fault => ofFault fault
  | .remote status error =>
      ⟨if 100 ≤ status ∧ status ≤ 999 then status else 500, error⟩
  | .exchange true _ =>
      plain 504 "InternalServiceTimeout" "queue service timed out"
  | _ => internal

/-- The refusal for a failure, whatever it is told with. -/
def ofFailure : Failure → Refusal
  | .request fault => ofRequest fault
  | .fault fault => ofFault fault
  | .client fault => ofClient fault
  | .other _ => internal
  | .inContext _ cause => ofFailure cause

def envelope (refusal : Refusal) (metadata : Metadata) : Envelope Json :=
  ⟨metadata, none, some refusal.error⟩

end Refusal

end StalestFirst
