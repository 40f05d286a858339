import StalestFirst.Http.Message
import StalestFirst.Service.Query

namespace StalestFirst

/-! ## Asking a queue service

A client asks a queue service over HTTP. The status and the body of what comes
back tell the result or why there is none. -/

/-- What came of a request to a service: a response with a status and a body, or
none, be it for want of time or for another reason. -/
inductive Exchange where
  | failed (timedOut : Bool) (reason : String)
  | replied (status : Nat) (body : List UInt8)
  deriving DecidableEq

structure QueueClient where
  endpoint : String
  deriving DecidableEq

namespace QueueClient

/-- The query that names an action of the served version. -/
def queryOf (action : String) : String :=
  "Action=" ++ action ++ "&Version=" ++ apiVersion

def request (action : String) (body : List UInt8) : Http.Request where
  method := "POST"
  target := ⟨[Http.ascii '/'], some (Http.asciiBytes (queryOf action))⟩
  headers := [("content-type", Http.asciiBytes "application/json")]
  body := body

def drawRequest : Http.Request := request "Dequeue" []

def acceptRequest (item : Item) : Http.Request :=
  request "Sync" (Text.Utf8.encode (Wire.print item).toList)

def address (client : QueueClient) (action : String) : String :=
  let mark := if client.endpoint.contains '?' then "&" else "?"
  client.endpoint ++ mark ++ queryOf action

/-- The result that an exchange brought. An error in an envelope counts before the
status, and the status before the result. -/
def read {α : Type} [Wire α] (client : QueueClient) (action : String) :
    Exchange → Except ClientFault α
  | .failed timedOut reason => .error (.exchange timedOut reason)
  | .replied status body =>
      let envelope : Option (Envelope α) := Wire.ofBytes? body
      match envelope.bind Envelope.error with
      | some error => .error (.remote status error)
      | none =>
          if Http.isSuccess status then
            match envelope with
            | none => .error (.unreadable "the body is no envelope")
            | some envelope =>
                match envelope.result with
                | some result => .ok result
                | none =>
                    .error (.unreadable
                      (action ++ " response carries no Result"))
          else .error (.status status (client.address action))

def readDraw (client : QueueClient) (exchange : Exchange) :
    Except ClientFault String :=
  (client.read "Dequeue" exchange).map Drawn.id

def readAccept (client : QueueClient) (exchange : Exchange) :
    Except ClientFault Unit :=
  (client.read "Sync" exchange : Except ClientFault Accepted).map fun _ => ()

end QueueClient

end StalestFirst
