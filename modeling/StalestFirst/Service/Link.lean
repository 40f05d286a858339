import StalestFirst.Queue.Retrieval
import StalestFirst.Service.Client
import StalestFirst.Service.Parts

namespace StalestFirst

/-! ## Ways to a queue

The box service asks a queue in its own process, or one behind a queue service.
Here every question is answered before the next one is asked. -/

/-- What a request meets with: the number of its call, the number it draws with,
and the identifier that a new box gets. -/
structure Occasion where
  call : Nat
  drawNumber : Nat
  freshId : String
  deriving DecidableEq

namespace QueueService

def fulfil (world : World) (occasion : Occasion) (metadata : Metadata) :
    QueueOrder → World × Http.Response
  | .accept item =>
      ((world.step (.submit item)).1, Reply.ofOutcome metadata (.ok Accepted.mk))
  | .draw =>
      let (next, result) := world.retrieve occasion.call occasion.drawNumber
      (next, Reply.ofOutcome metadata
        ((result.map Drawn.mk).mapError Failure.fault))

def answer (world : World) (occasion : Occasion) (request : Http.Request) :
    World × Http.Response :=
  match Reply.beforehand? request with
  | some response => (world, response.forMethod request.method)
  | none =>
      match QueueOrder.ofRequest request with
      | ⟨metadata, .error fault⟩ =>
          (world, (Reply.ofFault metadata fault).forMethod request.method)
      | ⟨metadata, .ok order⟩ =>
          let (next, response) := fulfil world occasion metadata order
          (next, response.forMethod request.method)

end QueueService

/-- What becomes of a request that is sent to a queue service. -/
abbrev Transport := World → Occasion → Http.Request → World × Exchange

namespace Transport

def unreachable : Transport := fun world _ _ =>
  (world, .failed false "the service cannot be reached")

/-- Each request comes to a service over the queue, and its answer comes back. -/
def faithful : Transport := fun world occasion request =>
  let (next, response) := QueueService.answer world occasion request
  (next, .replied response.status (Text.Utf8.encode response.body.toList))

end Transport

/-- A way to ask a queue for a box, and to have it take an item. -/
structure Link where
  draw : World → Occasion → World × Except ClientFault String
  accept : World → Occasion → Item → World × Except ClientFault Unit

namespace Link

/-- The way to a queue in the same process. -/
def direct : Link where
  draw world occasion :=
    let (next, result) := world.retrieve occasion.call occasion.drawNumber
    (next, result.mapError .queue)
  accept world _ item := ((world.step (.submit item)).1, .ok ())

/-- The way to a queue behind a queue service. -/
def remote (client : QueueClient) (transport : Transport) : Link where
  draw world occasion :=
    let (next, exchange) := transport world occasion QueueClient.drawRequest
    (next, client.readDraw exchange)
  accept world occasion item :=
    let (next, exchange) :=
      transport world occasion (QueueClient.acceptRequest item)
    (next, client.readAccept exchange)

end Link

end StalestFirst
